import BuildVariants.CommandLine.Run
import BuildVariants.Description.Build
import BuildVariants.Library.Flatten
import BuildVariants.Main
import BuildVariants.Manifest
import BuildVariants.Report
import BuildVariants.Variant.Attributes
import BuildVariants.Variant.World
import BuildVariants.Proofs.PriorityOrder
import BuildVariants.Proofs.Attributes
import BuildVariants.Proofs.Commands
import BuildVariants.Proofs.DeclaredLibraries
import BuildVariants.Proofs.Building
import BuildVariants.Proofs.NameOrder
import BuildVariants.Proofs.Configurations
import BuildVariants.Proofs.FlatLibraries
import BuildVariants.Proofs.PackageName
import BuildVariants.Proofs.BuildFaults
import BuildVariants.Proofs.Overrides
import BuildVariants.Proofs.WellShaped
import BuildVariants.Proofs.Copies
import BuildVariants.Proofs.History
import BuildVariants.Proofs.CallOrder
import BuildVariants.Proofs.Reports
import BuildVariants.Proofs.TestOverrides
import BuildVariants.Proofs.DeclarationOrder
import BuildVariants.Proofs.PathTexts
import BuildVariants.Proofs.Classpath
import BuildVariants.Proofs.Resources
import BuildVariants.Proofs.LibraryPackages
import BuildVariants.Proofs.KnownKeys
import BuildVariants.Proofs.UnknownNames
import BuildVariants.Proofs.DeclaredPaths
