import PageRoutes.Main
import PageRoutes.Proofs.PageAccounting
import PageRoutes.Proofs.RoutePattern
import PageRoutes.Proofs.FirstMatch
import PageRoutes.Proofs.ComponentImports
import PageRoutes.Proofs.EntryText
import PageRoutes.Proofs.LoadedGuards
import PageRoutes.Proofs.AttachedGuards
import PageRoutes.Proofs.GuardAccounting
import PageRoutes.Proofs.ScopeConflicts
import PageRoutes.Proofs.ImportLists
import PageRoutes.Proofs.Rearrangement
import PageRoutes.Proofs.DiscoveryOrder
import PageRoutes.Proofs.ImportedNames
import PageRoutes.Proofs.DirectoryWalk
import PageRoutes.Proofs.NameWords
import PageRoutes.Proofs.OutputFiles
import PageRoutes.Proofs.RepeatedOutput
import PageRoutes.Proofs.SourceLiterals
import PageRoutes.Proofs.StableOrder
import PageRoutes.Proofs.GuardOrder
import PageRoutes.Proofs.WrittenComponents
import PageRoutes.Proofs.GuardFaults
import PageRoutes.Proofs.DirectoryPlaces
import PageRoutes.Proofs.DirectorySpelling
import PageRoutes.Proofs.DiscoveredFiles
import PageRoutes.Proofs.TemplatePaths
import PageRoutes.Proofs.ElementNames
import PageRoutes.Proofs.ClassNames
import PageRoutes.Proofs.ModuleExports
import PageRoutes.Proofs.CanonicalWords
import PageRoutes.Proofs.Specificity
import PageRoutes.Proofs.CommandRun
