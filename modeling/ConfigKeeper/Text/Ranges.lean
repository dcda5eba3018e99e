namespace ConfigKeeper.Text

def inRanges (rs : List (Nat × Nat)) (n : Nat) : Bool := rs.any fun r ↦ r.1 ≤ n && n ≤ r.2

end ConfigKeeper.Text
