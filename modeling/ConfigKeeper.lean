import ConfigKeeper.Main
import ConfigKeeper.Proofs.DottedKeys
import ConfigKeeper.Proofs.KeyMaps
import ConfigKeeper.Proofs.Leaves
import ConfigKeeper.Proofs.Branches
import ConfigKeeper.Proofs.Entries
import ConfigKeeper.Proofs.Coherence
import ConfigKeeper.Proofs.Nesting
import ConfigKeeper.Proofs.Octets
import ConfigKeeper.Proofs.Clashes
import ConfigKeeper.Proofs.Places
import ConfigKeeper.Proofs.Readings
import ConfigKeeper.Proofs.Reloading
import ConfigKeeper.Proofs.Changes
import ConfigKeeper.Proofs.Sessions
import ConfigKeeper.Proofs.Processes
import ConfigKeeper.Proofs.Preservation
import ConfigKeeper.Proofs.Parents
import ConfigKeeper.Proofs.Verdicts
import ConfigKeeper.Proofs.Histories
import ConfigKeeper.Proofs.Invocations
import ConfigKeeper.Proofs.Trails
import ConfigKeeper.Proofs.Creation
import ConfigKeeper.Proofs.Rejections
import ConfigKeeper.Proofs.Failures
import ConfigKeeper.Proofs.Letters
import ConfigKeeper.Proofs.Looks
import ConfigKeeper.Proofs.Tables
import ConfigKeeper.Proofs.CommandLines
import ConfigKeeper.Proofs.Colours
import ConfigKeeper.Proofs.Coercions
import ConfigKeeper.Proofs.Succession
import ConfigKeeper.Proofs.Resaving
import ConfigKeeper.Proofs.Scalars
import ConfigKeeper.Proofs.BaseFolders
import ConfigKeeper.Proofs.Locations
import ConfigKeeper.Proofs.LevelNames
import ConfigKeeper.Proofs.Pending
import ConfigKeeper.Proofs.GlobalOptions
import ConfigKeeper.Proofs.Verbatim
import ConfigKeeper.Proofs.TableLayout
