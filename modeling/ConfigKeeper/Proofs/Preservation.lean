import ConfigKeeper.Proofs.Sessions

namespace ConfigKeeper

/-- The node that is written in place of one that was read. What holds no value is not written. -/
def Yaml.Node.rewritten? : Node → Option Node
  | .null => some (.string "")
  | .bool b => some (.bool b)
  | .number (.integer n) =>
    if Int64.minValue.toInt ≤ n ∧ n ≤ Int64.maxValue.toInt then some (.number (.integer n))
    else some (.string (toString n))
  | .number (.float x) => some (.string x.text)
  | .string s => some (.string s)
  | .sequence _ | .mapping _ | .tagged _ _ => none

theorem Value.map_toNode_ofNode? (n : Yaml.Node) :
    (Value.ofNode? n).map Value.toNode = n.rewritten? := by
  cases n with
  | number m =>
    cases m with
    | integer i =>
      rw [ofNode?, Yaml.Node.rewritten?, ofInt]
      split
      · next h =>
        rw [Option.map_some]
        simp only [toNode, toTree, Int64.toInt_ofIntLE]
        rfl
      · rfl
    | float x => rfl
  | null | bool b | string s | sequence items | mapping pairs | tagged tag n => rfl

namespace Store

open Yaml (Tree)
open Yaml.Node (entriesAll)
open Finding (dottedPath keyOf)
open Log (Logger)

theorem found_of_last {pairs : List (Yaml.Node × Yaml.Node)}
    {before after : List (List String × Yaml.Node)} {names : List String} {n : Yaml.Node}
    {v : Value} (h : entriesAll pairs = before ++ (names, n) :: after)
    (hvalue : Value.ofNode? n = some v)
    (hlast : ∀ e ∈ after, (Value.ofNode? e.2).isSome → keyOf e.1 ≠ keyOf names) :
    (found pairs).get? (keyOf names) = some v := by
  have hsetting : Finding.settingOf? "" (names, n) = some (keyOf names, v) := by
    rw [Finding.settingOf?, hvalue]
    rfl
  have hsplit : (entriesAll pairs).filterMap (Finding.settingOf? "") =
      before.filterMap (Finding.settingOf? "") ++
        (keyOf names, v) :: after.filterMap (Finding.settingOf? "") := by
    rw [h, List.filterMap_append, List.filterMap_cons, hsetting]
  apply KeyMap.get?_ofList_of_last hsplit
  intro e he
  obtain ⟨m, hm, hme⟩ := List.mem_filterMap.1 he
  rw [Finding.settingOf?, Option.map_eq_some_iff] at hme
  obtain ⟨w, hw, rfl⟩ := hme
  exact hlast m hm (by rw [hw]; rfl)

theorem get?_of_found {env : Environment} {d : Disk} {path : Path} {text : String} {s : Store}
    {pairs : List (Yaml.Node × Yaml.Node)} (hdocument : Yaml.read text = some (.mapping pairs))
    (h : (ofText env d path text).result = .ok s) {k : String} {v : Value}
    (hk : (found pairs).get? k = some v) : s.get? k = some v := by
  rw [ofText_of_mapping hdocument] at h
  rw [(withPairs_eq_ok_iff.1 h).1]
  change (KeyMap.overlay _ _).get? k = _
  rw [KeyMap.get?_overlay, hk, Option.some_or]

theorem Makes.get?_of_unknown {s : Store} {logger : Logger} {d : Disk} {c : Change}
    (h : Makes s logger d c) {k : String} (hk : k ∉ Key.names) : c.store.get? k = s.get? k := by
  have hput : ∀ (key : Key) (v : Value), (s.put key.name v).get? k = s.get? k := by
    intro key v
    have hne : k ≠ key.name := by
      rintro rfl
      exact hk (List.mem_map_of_mem key.mem_all)
    rw [put_name, get?, KeyMap.get?_insert, if_neg hne]
    rfl
  cases h with
  | rejected f => rfl
  | unchanged key => rfl
  | failed context cause happly hwrite => exact hput _ _
  | updated happly hwrite => exact hput _ _

theorem Nested.mem_entriesAll {s : Store} {pairs : List (String × Tree)} (h : s.Nested pairs)
    {k : String} {v : Value} (hk : s.get? k = some v) :
    (parts k, v.toNode) ∈ entriesAll (Tree.toNodes pairs) := by
  rw [Yaml.Node.entriesAll_toNodes, List.mem_map]
  refine ⟨(parts k, v.toTree), ?_, rfl⟩
  rw [h.leaves.mem_iff, List.mem_map]
  exact ⟨(k, v), KeyMap.get?_eq_some_iff.1 hk, rfl⟩

theorem Nested.dottedPath_mem {s : Store} {pairs : List (String × Tree)} (h : s.Nested pairs)
    (hs : s.Coherent) {e : List String × Yaml.Node} (he : e ∈ entriesAll (Tree.toNodes pairs)) :
    dottedPath e.1 ∈ s.values.keys := by
  rw [Yaml.Node.entriesAll_toNodes, List.mem_map] at he
  obtain ⟨l, hl, rfl⟩ := he
  rw [h.leaves.mem_iff, List.mem_map] at hl
  obtain ⟨a, ha, rfl⟩ := hl
  have hk : a.1 ∈ s.values.keys := List.mem_map_of_mem ha
  rw [Finding.dottedPath_parts (hs.small _ hk)]
  exact hk

/-- When a setting was updated, an entry of the document that holds a value and has the key of no
setting is in the new document under the same path, unless a later entry has the same key. -/
theorem entry_rewritten {env : Environment} {d d' : Disk} {path : Path} {text : String} {s : Store}
    {pairs : List (Yaml.Node × Yaml.Node)} {logger : Logger} {arguments : List String}
    {key : String} {old : Option Value} {new : Value}
    (htext : d.readText path = .ok text) (hdocument : Yaml.read text = some (.mapping pairs))
    (hload : (load env d path).result = .ok s)
    (hset : (s.set logger d' arguments).result = .ok (.updated key old new))
    (hback : ∀ t, (s.set logger d' arguments).store.toTree = .ok t →
      Yaml.read t.render = some t.toNode)
    {before after : List (List String × Yaml.Node)} {names : List String} {n n' : Yaml.Node}
    (hentry : entriesAll pairs = before ++ (names, n) :: after) (hn : n.rewritten? = some n')
    (hunknown : dottedPath names ∉ Key.names) (hfirst : names.head? = some "" → names = [""])
    (hlast : ∀ e ∈ after, e.2.rewritten?.isSome → keyOf e.1 ≠ keyOf names) :
    ∃ text' pairs', (s.set logger d' arguments).disk.readText path = .ok text' ∧
      Yaml.read text' = some (.mapping pairs') ∧
      ∃ names', (names', n') ∈ entriesAll pairs' ∧ dottedPath names' = dottedPath names := by
  have hmakes := set_makes s logger d' arguments
  rw [load_of_readText env htext] at hload
  have hs := coherent_of_ofText hload
  have hcoherent := hmakes.coherent hs
  obtain ⟨pairs', hpairs'⟩ := hcoherent.exists_nested
  obtain ⟨text', htext', hread'⟩ := hmakes.saved hset
  rw [hpairs'.toText, Except.ok.injEq] at htext'
  subst htext'
  rw [hmakes.path, ofText_path hload] at hread'
  refine ⟨_, Tree.toNodes pairs', hread', hback _ hpairs'.toTree, ?_⟩
  rw [← Value.map_toNode_ofNode?, Option.map_eq_some_iff] at hn
  obtain ⟨v, hv, rfl⟩ := hn
  have hkey := Finding.keyOf_eq_dottedPath hfirst
  have hfound : (found pairs).get? (keyOf names) = some v := by
    refine found_of_last hentry hv fun e he hsome ↦ hlast e he ?_
    rw [← Value.map_toNode_ofNode?, Option.isSome_map]
    exact hsome
  have hold := get?_of_found hdocument hload hfound
  rw [hkey] at hold
  have hnew := (hmakes.get?_of_unknown hunknown).trans hold
  have hsmall : Text.Small (dottedPath names) :=
    hcoherent.small _ (KeyMap.mem_keys_iff.2 (Option.isSome_of_eq_some hnew))
  exact ⟨_, hpairs'.mem_entriesAll hnew, Finding.dottedPath_parts hsmall⟩

section

open Session

/-- The store of a file with an entry of its own. -/
def noted : Store := { fresh with values := fresh.values.insert "custom.note" (.int 7) }

def noteText : String := "Custom:\n  Note: 7\n"

theorem note_rewritten : ∃ text' pairs',
    (noted.set .start (alone noteText false) toDebug).disk.readText ⟨[99]⟩ = .ok text' ∧
    Yaml.read text' = some (.mapping pairs') ∧
    ∃ names', (names', .number (.integer 7)) ∈ entriesAll pairs' ∧
      dottedPath names' = dottedPath ["Custom", "Note"] := by
  have htext := readText_alone noteText false
  have hdocument : Yaml.read noteText = some (.mapping
      [(.string "Custom", .mapping [(.string "Note", .number (.integer 7))])]) := by decide +kernel
  have hload : (load {} (alone noteText false) ⟨[99]⟩).result = .ok noted := by
    rw [load_of_readText {} htext]
    decide +kernel
  have hs := coherent_of_load hload
  have hne : (noted.get? Key.logLevel.name).map Value.text ≠ some "debug" := by decide
  have hset := result_set_alone hs rfl checkArguments_toDebug hne .start noteText false
  have hback : ∀ t, (noted.set .start (alone noteText false) toDebug).store.toTree = .ok t →
      Yaml.read t.render = some t.toNode := by
    have hreads : (noted.put "logging.level" (.string "debug")).ReadsBack := by decide +kernel
    have hkeys : ∀ k ∈ (noted.put "logging.level" (.string "debug")).values.keys, Readable k := by
      decide +kernel
    intro t ht
    rw [store_set_of_ne checkArguments_toDebug hne] at ht
    exact (hs.put .logLevel (.string "debug")).read_render hkeys hreads ht
  have hentry : entriesAll [(.string "Custom", .mapping [(.string "Note", .number (.integer 7))])] =
      [] ++ (["Custom", "Note"], .number (.integer 7)) :: [] := rfl
  refine entry_rewritten htext hdocument hload hset hback hentry rfl ?_ ?_ ?_
  · decide
  · decide
  · exact fun e he ↦ absurd he List.not_mem_nil

theorem sequence_not_rewritten : ∃ pairs text' pairs',
    Yaml.read "custom:\n- 1\n" = some (.mapping pairs) ∧
    (["custom"], .sequence [.number (.integer 1)]) ∈ entriesAll pairs ∧
    dottedPath ["custom"] ∉ Key.names ∧
    (load {} (alone "custom:\n- 1\n" false) ⟨[99]⟩).result = .ok fresh ∧
    (fresh.set .start (alone "custom:\n- 1\n" false) toDebug).result =
      .ok (.updated "logging.level" (some (.string "info")) (.string "debug")) ∧
    (fresh.set .start (alone "custom:\n- 1\n" false) toDebug).disk.readText ⟨[99]⟩ = .ok text' ∧
    Yaml.read text' = some (.mapping pairs') ∧
    ∀ e ∈ entriesAll pairs', dottedPath e.1 ≠ dottedPath ["custom"] := by
  have hdocument : Yaml.read "custom:\n- 1\n" = some (.mapping
      [(.string "custom", .sequence [.number (.integer 1)])]) := by decide +kernel
  have hload : (load {} (alone "custom:\n- 1\n" false) ⟨[99]⟩).result = .ok fresh := by
    rw [load_of_readText {} (readText_alone _ _)]
    decide +kernel
  have hunknown : dottedPath ["custom"] ∉ Key.names := by decide
  have hset := result_set_toDebug .start "custom:\n- 1\n" false
  have hmakes := set_makes fresh .start (alone "custom:\n- 1\n" false) toDebug
  have hplain := hmakes.plain plain_fresh
  have hsaved := hmakes.saved hset
  rw [store_set_toDebug] at hplain hsaved
  obtain ⟨pairs', hpairs'⟩ := hplain.coherent.exists_nested
  obtain ⟨text', htext', hread'⟩ := hsaved
  rw [hpairs'.toText, Except.ok.injEq] at htext'
  have hread := hplain.coherent.read_render hplain.readable readsBack_fresh.2 hpairs'.toTree
  rw [htext'] at hread
  refine ⟨_, text', Tree.toNodes pairs', hdocument, List.mem_cons_self, hunknown, hload, hset,
    hread', hread, fun e he hpath ↦ hunknown ?_⟩
  rw [← hpath]
  exact hplain.keys _ (hpairs'.dottedPath_mem hplain.coherent he)

end

end Store

end ConfigKeeper
