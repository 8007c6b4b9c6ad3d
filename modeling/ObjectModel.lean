import ObjectModel.Main
import ObjectModel.Proofs.BodyContents
import ObjectModel.Proofs.BuildOutcomes
import ObjectModel.Proofs.CommandOutcomes
import ObjectModel.Proofs.CommitOrder
import ObjectModel.Proofs.ConstructionTrace
import ObjectModel.Proofs.DeclaredTables
import ObjectModel.Proofs.ExternalWrites
import ObjectModel.Proofs.FieldPrivacy
import ObjectModel.Proofs.GreeterHistory
import ObjectModel.Proofs.GuardedConstruction
import ObjectModel.Proofs.InterceptedAccess
import ObjectModel.Proofs.InternalAccess
import ObjectModel.Proofs.NameChains
import ObjectModel.Proofs.OpenBuilders
import ObjectModel.Proofs.OperatorViews
import ObjectModel.Proofs.ParentHandle
import ObjectModel.Proofs.Redefinition
import ObjectModel.Proofs.SharedStatics
import ObjectModel.Proofs.WarningsToggle
