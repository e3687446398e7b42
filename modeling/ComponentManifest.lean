import ComponentManifest.Main
import ComponentManifest.Manifest.Tagger
import ComponentManifest.Proofs.BuildSteps
import ComponentManifest.Proofs.Outcomes
import ComponentManifest.Proofs.PatternPaths
import ComponentManifest.Proofs.Coverage
import ComponentManifest.Proofs.Grouping
import ComponentManifest.Proofs.ImportSpelling
import ComponentManifest.Proofs.NormalForm
import ComponentManifest.Proofs.PackageLists
import ComponentManifest.Proofs.PathSegments
import ComponentManifest.Proofs.PatternListing
import ComponentManifest.Proofs.PlainPath
import ComponentManifest.Proofs.Programs
import ComponentManifest.Proofs.RealPath
import ComponentManifest.Proofs.ReadConfinement
import ComponentManifest.Proofs.SourceListing
import ComponentManifest.Proofs.Walk
import ComponentManifest.Server.Startup
import ComponentManifest.Service.Answer
import ComponentManifest.Service.Call
import ComponentManifest.Service.Session
import ComponentManifest.Proofs.Schedules
import ComponentManifest.Proofs.RelativePaths
import ComponentManifest.Proofs.ListedPaths
import ComponentManifest.Proofs.ManifestPaths
import ComponentManifest.Proofs.FreeNames
import ComponentManifest.Proofs.TreeChanges
import ComponentManifest.Proofs.AllOrNothing
import ComponentManifest.Proofs.ReportedFaults
import ComponentManifest.Proofs.UpwardSearch
import ComponentManifest.Proofs.SessionHistory
import ComponentManifest.Proofs.Generation
import ComponentManifest.Proofs.PatternConfinement
import ComponentManifest.Proofs.LinkFree
import ComponentManifest.Proofs.StableListing
import ComponentManifest.Proofs.JsonRoundTrip
import ComponentManifest.Proofs.StableBuild
import ComponentManifest.Proofs.Regeneration
import ComponentManifest.Proofs.ItemQuestions
import ComponentManifest.Proofs.SegmentRules
import ComponentManifest.Proofs.FileBatches
import ComponentManifest.Proofs.ManifestText
import ComponentManifest.Proofs.DirectoryRules
import ComponentManifest.Proofs.ExcludedNames
import ComponentManifest.Proofs.ImportClauses
import ComponentManifest.Proofs.AliasResolution
import ComponentManifest.Proofs.AliasSpelling
import ComponentManifest.Proofs.QueryParameters
import ComponentManifest.Proofs.FirstAppearance
import ComponentManifest.Proofs.GroupOrder
import ComponentManifest.Proofs.AliasOrder
import ComponentManifest.Proofs.TagMemory
import ComponentManifest.Proofs.PathTypes
import ComponentManifest.Proofs.SearchRounds
import ComponentManifest.Proofs.ProjectFiles
import ComponentManifest.Proofs.ResolvedConfig
import ComponentManifest.Proofs.ListedSources
import ComponentManifest.Proofs.LineEnds
import ComponentManifest.Proofs.DeclaredPackages
import ComponentManifest.Proofs.LooseNames
import ComponentManifest.Proofs.CheckedFiles
import ComponentManifest.Proofs.ExtraExclusions
import ComponentManifest.Proofs.PackageNames
import ComponentManifest.Proofs.WrittenTypes
