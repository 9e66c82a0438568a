import PropertyTyping.Main
import PropertyTyping.Log.Session
import PropertyTyping.StorageType.Lookup
import PropertyTyping.Proofs.TagOrder
import PropertyTyping.Proofs.Writing
import PropertyTyping.Proofs.TypeChoice
import PropertyTyping.Proofs.ValueEquality
import PropertyTyping.Proofs.TagFaults
import PropertyTyping.Proofs.RecordReading
import PropertyTyping.Proofs.RawReading
import PropertyTyping.Proofs.Numeral
import PropertyTyping.Proofs.JsonText
import PropertyTyping.Proofs.JsonLexicon
import PropertyTyping.Proofs.JsonFuel
import PropertyTyping.Proofs.JsonReading
import PropertyTyping.Proofs.JsonPlain
import PropertyTyping.Proofs.ReportTrace
import PropertyTyping.Proofs.ReportDocument
import PropertyTyping.Proofs.ReportFile
import PropertyTyping.Proofs.Console
import PropertyTyping.Proofs.PayloadReading
import PropertyTyping.Proofs.PayloadReport
import PropertyTyping.Proofs.RunTrace
import PropertyTyping.Proofs.ConsoleLines
import PropertyTyping.Proofs.Output
import PropertyTyping.Proofs.LogHistory
import PropertyTyping.Proofs.LogSettings
import PropertyTyping.Proofs.LogRefusals
import PropertyTyping.Proofs.LogHierarchy
import PropertyTyping.Proofs.RecordLine
import PropertyTyping.Proofs.LogLines
import PropertyTyping.Proofs.RunTickets
import PropertyTyping.Proofs.RunNesting
import PropertyTyping.Proofs.LossWarning
import PropertyTyping.Proofs.OwnerNames
import PropertyTyping.Proofs.NameCollisions
import PropertyTyping.Proofs.OwnerSources
import PropertyTyping.Proofs.IssuePlaces
import PropertyTyping.Proofs.RecordIssues
import PropertyTyping.Proofs.PayloadIssues
import PropertyTyping.Proofs.FieldSpelling
import PropertyTyping.Proofs.RecordWriting
import PropertyTyping.Proofs.StagedChoice
import PropertyTyping.Proofs.TypeLanguage
import PropertyTyping.Proofs.PathNames
import PropertyTyping.Proofs.LoadPrecedence
