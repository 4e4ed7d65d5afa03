import Articulation.Files.Store
import Articulation.Main
import Articulation.Proofs.Walk
import Articulation.Proofs.Records
import Articulation.Proofs.Generations
import Articulation.Proofs.Spanning
import Articulation.Proofs.Emission
import Articulation.Proofs.Association
import Articulation.Proofs.Pipeline
import Articulation.Proofs.Geometry
import Articulation.Proofs.Names
import Articulation.Proofs.Acceptance
import Articulation.Proofs.Order
import Articulation.Proofs.Turning
import Articulation.Proofs.UpAxis
import Articulation.Proofs.Kinematics
import Articulation.Proofs.Materials
import Articulation.Proofs.CreationOrder
import Articulation.Proofs.Classification
import Articulation.Proofs.Blame
import Articulation.Proofs.Pruning
import Articulation.Proofs.Configuration
import Articulation.Proofs.Histories
import Articulation.Proofs.Collisions
import Articulation.Proofs.Registry
import Articulation.Proofs.RootName
import Articulation.Proofs.CollisionNames
import Articulation.Proofs.Colours
import Articulation.Proofs.Directions
import Articulation.Proofs.Conversion
import Articulation.Proofs.ConfigurationErrors
