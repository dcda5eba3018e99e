namespace ConfigKeeper.Flag

def trueSpellings : List String := ["1", "t", "T", "TRUE", "true", "True"]

def falseSpellings : List String := ["0", "f", "F", "FALSE", "false", "False"]

def ofText? (s : String) : Option Bool :=
  if s ∈ trueSpellings then some true else if s ∈ falseSpellings then some false else none

end ConfigKeeper.Flag
