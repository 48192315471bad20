import ConditionQuery.Main
import ConditionQuery.Proofs.MarkedText
import ConditionQuery.Proofs.PlaceholderNames
import ConditionQuery.Proofs.Walk
import ConditionQuery.Proofs.Layout
import ConditionQuery.Proofs.Rendering
import ConditionQuery.Proofs.Slots
import ConditionQuery.Proofs.BoundStatement
import ConditionQuery.Proofs.Printing
import ConditionQuery.Proofs.Skeleton
import ConditionQuery.Proofs.Unambiguous
import ConditionQuery.Proofs.Offences
import ConditionQuery.Proofs.Joins
import ConditionQuery.Proofs.Erasure
import ConditionQuery.Proofs.CompileAnswers
import ConditionQuery.Proofs.StoreFrame
import ConditionQuery.Proofs.Ledger
import ConditionQuery.Proofs.ConditionAnswers
import ConditionQuery.Proofs.Retention
import ConditionQuery.Proofs.RouteAgreement
import ConditionQuery.Proofs.Occurrences
import ConditionQuery.Proofs.Searches
import ConditionQuery.Proofs.Finiteness
import ConditionQuery.Proofs.Records
import ConditionQuery.Proofs.TreeRoundTrip
import ConditionQuery.Proofs.Numerals
import ConditionQuery.Proofs.ConditionRoundTrip
import ConditionQuery.Proofs.AcceptedOffsets
import ConditionQuery.Proofs.SecondPass
import ConditionQuery.Proofs.SlotFailures
import ConditionQuery.Proofs.ProjectedColumns
import ConditionQuery.Proofs.StoreBound
import ConditionQuery.Proofs.TextReading
import ConditionQuery.Proofs.PrintedStrings
import ConditionQuery.Proofs.PrintedNumbers
import ConditionQuery.Proofs.PrintedValues
import ConditionQuery.Proofs.RequestTexts
import ConditionQuery.Proofs.Submission
