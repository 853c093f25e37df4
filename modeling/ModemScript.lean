import ModemScript.Main
import ModemScript.Modem
import ModemScript.Proofs.Accounts
import ModemScript.Proofs.AdHoc
import ModemScript.Proofs.Captures
import ModemScript.Proofs.Chains
import ModemScript.Proofs.CommandFields
import ModemScript.Proofs.Conservation
import ModemScript.Proofs.Deadline
import ModemScript.Proofs.DirectiveLine
import ModemScript.Proofs.Fragments
import ModemScript.Proofs.JoinedFields
import ModemScript.Proofs.Judgement
import ModemScript.Proofs.Leftovers
import ModemScript.Proofs.Lifecycle
import ModemScript.Proofs.LineByLine
import ModemScript.Proofs.Listening
import ModemScript.Proofs.Markers
import ModemScript.Proofs.OneAtATime
import ModemScript.Proofs.Pieces
import ModemScript.Proofs.QueueOrder
import ModemScript.Proofs.QuotedLists
import ModemScript.Proofs.Record
import ModemScript.Proofs.Refusals
import ModemScript.Proofs.Removal
import ModemScript.Proofs.ReplyLines
import ModemScript.Proofs.Retry
import ModemScript.Proofs.Rewind
import ModemScript.Proofs.Schedule
import ModemScript.Proofs.ScriptOrder
import ModemScript.Proofs.Selection
import ModemScript.Proofs.Soundness
import ModemScript.Proofs.Spellings
import ModemScript.Proofs.Substitution
import ModemScript.Proofs.Tolerance
