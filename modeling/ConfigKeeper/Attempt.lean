import ConfigKeeper.Disk.Files
import ConfigKeeper.Log.Logger

namespace ConfigKeeper

structure Attempt (α : Type) where
  result : Except Error α
  disk : Disk
  events : List Log.Event

end ConfigKeeper
