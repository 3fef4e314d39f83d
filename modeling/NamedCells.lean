import NamedCells.Main
import NamedCells.HandleTable
import NamedCells.Proofs.Joining
import NamedCells.Proofs.Comments
import NamedCells.Proofs.Batch
import NamedCells.Proofs.Presence
import NamedCells.Proofs.Commutation
import NamedCells.Proofs.Reset
import NamedCells.Proofs.CodeMeaning
import NamedCells.Proofs.ReturnedStatus
import NamedCells.Proofs.Erasure
import NamedCells.Proofs.Lifecycle
import NamedCells.Proofs.Printed
import NamedCells.Proofs.TellingApart
import NamedCells.Proofs.WrittenScripts
import NamedCells.Proofs.LoadedSettings
import NamedCells.Proofs.ArgumentOrder
import NamedCells.Proofs.SettingsFields
import NamedCells.Proofs.PrintedLines
import NamedCells.Proofs.RecordLines
import NamedCells.Proofs.NearestDouble
import NamedCells.Proofs.ShownNumbers
import NamedCells.Proofs.NameGrammar
import NamedCells.Proofs.ErrorPriority
import NamedCells.Proofs.LinePieces
import NamedCells.Proofs.WordForms
import NamedCells.Proofs.SetOutWords
import NamedCells.Proofs.Addressing
import NamedCells.Proofs.NearestMultiple
import NamedCells.Proofs.NearestShown
import NamedCells.Proofs.PieceSpans
