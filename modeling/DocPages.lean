import DocPages.CommandLine
import DocPages.Main
import DocPages.Proofs.CatalogueGrouping
import DocPages.Proofs.PageMarkup
import DocPages.Proofs.RunOutcome
import DocPages.Proofs.SearchLinks
import DocPages.Proofs.WrittenDocuments
import DocPages.Proofs.NavigationOrder
import DocPages.Proofs.RecordOrder
import DocPages.Proofs.PagePlaces
import DocPages.Proofs.CardPlaces
import DocPages.Proofs.PageLinks
import DocPages.Proofs.PageClashes
import DocPages.Proofs.OutputPlaces
import DocPages.Proofs.RepeatedRuns
import DocPages.Proofs.AnchorNumbers
import DocPages.Proofs.IdentifierSpelling
import DocPages.Proofs.OpenElements
import DocPages.Proofs.GatheringPlaces
import DocPages.Proofs.EmptyElements
import DocPages.Proofs.DocumentAcceptance
import DocPages.Proofs.ReferenceLabels
import DocPages.Proofs.NavigationTabs
import DocPages.Proofs.IndexReading
import DocPages.Proofs.PageClasses
import DocPages.Proofs.MemberCards
import DocPages.Proofs.SharedNames
import DocPages.Proofs.AnchorForms
import DocPages.Proofs.EscapedText
import DocPages.Proofs.RecordTotals
