import SignalScript.Proofs.Text.OneLine

/-!
# Nodes on one line

In both of its forms a node is shown with its texts quoted, so they end no line. Tags are quoted in
the compact form alone: where a key has the other form chosen, they stand as they are.

* `Node.childInduction`    induction on nodes, with a hypothesis for every child;
* `Node.tags`, `Node.keys` the tags of a node, and the keys of the mappings in it;
* `Node.onOneLine_json`    the compact form is on one line;
* `Node.isSome_json?_iff`  it exists exactly if each of the keys can be written;
* `Node.onOneLine_spelled_iff`    the other form is on one line exactly if each of the tags is;
* `Node.onOneLine_describe_iff`   which nodes are described on one line.
-/

namespace SignalScript

open Text

namespace Node

/-- **Induction on nodes**: in each case the claim is known of every child; the children of a
mapping are its keys and its values. -/
@[elab_as_elim]
theorem childInduction {motive : Node → Prop} (null : motive .null) (bool : ∀ b, motive (.bool b))
    (number : ∀ n, motive (.number n)) (text : ∀ s, motive (.text s))
    (sequence : ∀ items, (∀ item ∈ items, motive item) → motive (.sequence items))
    (mapping : ∀ entries, (∀ entry ∈ entries, motive entry.1 ∧ motive entry.2) →
      motive (.mapping entries))
    (tagged : ∀ tag value, motive value → motive (.tagged tag value)) : ∀ node, motive node := by
  intro node
  exact Node.rec (motive_1 := motive) (motive_2 := fun items => ∀ item ∈ items, motive item)
    (motive_3 := fun entries => ∀ entry ∈ entries, motive entry.1 ∧ motive entry.2)
    (motive_4 := fun entry => motive entry.1 ∧ motive entry.2)
    null bool number text sequence mapping tagged nofun
    (fun _ _ hfirst hrest => List.forall_mem_cons.mpr ⟨hfirst, hrest⟩) nofun
    (fun _ _ hfirst hrest => List.forall_mem_cons.mpr ⟨hfirst, hrest⟩)
    (fun _ _ hkey hvalue => ⟨hkey, hvalue⟩) node

/-! ## tags and keys -/

mutual

/-- the tags in a node, at any depth, in keys as well as in values -/
def tags : Node → List String
  | .sequence items => tagsOf items
  | .mapping entries => tagsIn entries
  | .tagged tag value => tag :: tags value
  | _ => []

def tagsOf : List Node → List String
  | [] => []
  | item :: rest => tags item ++ tagsOf rest

def tagsIn : List (Node × Node) → List String
  | [] => []
  | (k, v) :: rest => tags k ++ tags v ++ tagsIn rest

end

mutual

/-- the keys of a mapping, and of those in its values -/
def keys : Node → List Node
  | .sequence items => keysOf items
  | .mapping entries => keysIn entries
  | .tagged _ value => keys value
  | _ => []

def keysOf : List Node → List Node
  | [] => []
  | item :: rest => keys item ++ keysOf rest

def keysIn : List (Node × Node) → List Node
  | [] => []
  | (k, v) :: rest => k :: keys v ++ keysIn rest

end

theorem mem_keysOf {items : List Node} {key : Node} :
    key ∈ keysOf items ↔ ∃ item ∈ items, key ∈ item.keys := by
  induction items with
  | nil => simp [keysOf]
  | cons item rest ih => simp [keysOf, ih]

theorem mem_keysIn {entries : List (Node × Node)} {key : Node} :
    key ∈ keysIn entries ↔ ∃ entry ∈ entries, key = entry.1 ∨ key ∈ entry.2.keys := by
  induction entries with
  | nil => simp [keysIn]
  | cons entry rest ih => simp [keysIn, ih, or_assoc]

/-! ## the compact form -/

/-- a key is written between quotes -/
theorem onOneLine_jsonKey {key : Node} {shown : String} (h : key.jsonKey? = some shown) :
    OnOneLine shown := by
  have hquoted : ∃ s, quoteJson s = shown := by
    match key, h with
    | .text s, h => exact ⟨s, Option.some.inj h⟩
    | .bool b, h => exact ⟨_, Option.some.inj h⟩
    | .number (.int i), h => exact ⟨_, Option.some.inj h⟩
    | .number (.float x), h => exact ⟨_, (Option.ite_some_none_eq_some.mp h).2⟩
  obtain ⟨s, rfl⟩ := hquoted
  exact onOneLine_quoteJson s

theorem onOneLine_jsonItems {items : List Node} {parts : List String}
    (ih : ∀ item ∈ items, ∀ shown, item.json? = some shown → OnOneLine shown)
    (h : jsonItems? items = some parts) : ∀ part ∈ parts, OnOneLine part := by
  induction items generalizing parts with
  | nil =>
    obtain rfl := Option.some.inj h
    exact nofun
  | cons item rest ihs =>
    obtain ⟨hitem, hrest⟩ := List.forall_mem_cons.mp ih
    rw [jsonItems?] at h
    split at h
    · next shown others hshown hothers =>
      obtain rfl := Option.some.inj h
      exact List.forall_mem_cons.mpr ⟨hitem shown hshown, ihs hrest hothers⟩
    · exact nomatch h

theorem onOneLine_jsonEntries {entries : List (Node × Node)} {parts : List String}
    (ih : ∀ entry ∈ entries, ∀ shown, entry.2.json? = some shown → OnOneLine shown)
    (h : jsonEntries? entries = some parts) : ∀ part ∈ parts, OnOneLine part := by
  induction entries generalizing parts with
  | nil =>
    obtain rfl := Option.some.inj h
    exact nofun
  | cons entry rest ihs =>
    obtain ⟨hentry, hrest⟩ := List.forall_mem_cons.mp ih
    rw [jsonEntries?] at h
    split at h
    · next key shown others hkey hshown hothers =>
      obtain rfl := Option.some.inj h
      have hpart : OnOneLine (key ++ ":" ++ shown) := by
        rw [onOneLine_append_iff, onOneLine_append_iff]
        exact ⟨⟨onOneLine_jsonKey hkey, by decide⟩, hentry shown hshown⟩
      exact List.forall_mem_cons.mpr ⟨hpart, ihs hrest hothers⟩
    · exact nomatch h

/-- **The compact form is on one line**: texts, keys and tags are quoted in it. -/
theorem onOneLine_json (node : Node) : ∀ shown, node.json? = some shown → OnOneLine shown := by
  induction node using childInduction with
  | null =>
    intro shown h
    obtain rfl := Option.some.inj h
    decide
  | bool b =>
    intro shown h
    obtain rfl := Option.some.inj h
    exact onOneLine_boolText b
  | number n =>
    intro shown h
    obtain rfl := Option.some.inj h
    exact n.onOneLine_json
  | text s =>
    intro shown h
    obtain rfl := Option.some.inj h
    exact onOneLine_quoteJson s
  | sequence items ih =>
    intro shown h
    obtain ⟨parts, hparts, rfl⟩ := Option.map_eq_some_iff.mp h
    exact (onOneLine_enclosed_iff (by decide) (by decide) (by decide) parts).mpr
      (onOneLine_jsonItems ih hparts)
  | mapping entries ih =>
    intro shown h
    obtain ⟨parts, hparts, rfl⟩ := Option.map_eq_some_iff.mp h
    exact (onOneLine_enclosed_iff (by decide) (by decide) (by decide) parts).mpr
      (onOneLine_jsonEntries (fun entry hentry => (ih entry hentry).2) hparts)
  | tagged tag value ih =>
    intro shown h
    obtain ⟨inner, hinner, rfl⟩ := Option.map_eq_some_iff.mp h
    rw [onOneLine_enclosed_iff (by decide) (by decide) (by decide), List.forall_mem_singleton,
      onOneLine_append_iff, onOneLine_append_iff]
    exact ⟨⟨onOneLine_quoteJson _, by decide⟩, ih inner hinner⟩

/-! ## which nodes have it -/

theorem isSome_jsonItems?_iff (items : List Node) :
    (jsonItems? items).isSome ↔ ∀ item ∈ items, item.json?.isSome := by
  induction items with
  | nil => simp [jsonItems?]
  | cons item rest ih =>
    rw [List.forall_mem_cons, ← ih, jsonItems?]
    cases item.json? <;> cases jsonItems? rest <;> simp

theorem isSome_jsonEntries?_iff (entries : List (Node × Node)) :
    (jsonEntries? entries).isSome ↔
      ∀ entry ∈ entries, entry.1.jsonKey?.isSome ∧ entry.2.json?.isSome := by
  induction entries with
  | nil => simp [jsonEntries?]
  | cons entry rest ih =>
    rw [List.forall_mem_cons, ← ih, jsonEntries?]
    cases entry.1.jsonKey? <;> cases entry.2.json? <;> cases jsonEntries? rest <;> simp

/-- **The compact form exists exactly if every key can be written**, at whatever depth. -/
theorem isSome_json?_iff (node : Node) :
    node.json?.isSome ↔ ∀ key ∈ node.keys, key.jsonKey?.isSome := by
  induction node using childInduction with
  | null => exact ⟨fun _ => nofun, fun _ => rfl⟩
  | bool b => exact ⟨fun _ => nofun, fun _ => rfl⟩
  | number n => exact ⟨fun _ => nofun, fun _ => rfl⟩
  | text s => exact ⟨fun _ => nofun, fun _ => rfl⟩
  | sequence items ih =>
    rw [json?, Option.isSome_map, isSome_jsonItems?_iff, keys]
    constructor
    · intro h key hkey
      obtain ⟨item, hitem, hmem⟩ := mem_keysOf.mp hkey
      exact (ih item hitem).mp (h item hitem) key hmem
    · intro h item hitem
      exact (ih item hitem).mpr fun key hkey => h key (mem_keysOf.mpr ⟨item, hitem, hkey⟩)
  | mapping entries ih =>
    rw [json?, Option.isSome_map, isSome_jsonEntries?_iff, keys]
    constructor
    · intro h key hkey
      obtain ⟨entry, hentry, rfl | hmem⟩ := mem_keysIn.mp hkey
      · exact (h entry hentry).1
      · exact ((ih entry hentry).2).mp (h entry hentry).2 key hmem
    · intro h entry hentry
      refine ⟨h _ (mem_keysIn.mpr ⟨entry, hentry, .inl rfl⟩), ?_⟩
      exact ((ih entry hentry).2).mpr fun key hkey =>
        h key (mem_keysIn.mpr ⟨entry, hentry, .inr hkey⟩)
  | tagged tag value ih => rw [json?, Option.isSome_map, ih, keys]

/-! ## the form that spells out the kinds -/

/-- a key in the form that spells out the kinds -/
def spelledKey : Node → String
  | .text s => quoteVisible s
  | .bool b => boolText b
  | .number n => n.scalarText
  | key => spelled key

theorem spelled_sequence (items : List Node) :
    (sequence items).spelled = enclosed "Sequence [" "]" ", " (spelledItems items) := rfl

theorem spelled_mapping (entries : List (Node × Node)) :
    (mapping entries).spelled = enclosed "Mapping \x7b" "\x7d" ", " (spelledEntries entries) := rfl

theorem spelled_tagged (tag : String) (value : Node) :
    (tagged tag value).spelled =
      "TaggedValue \x7b tag: !" ++ tag ++ ", value: " ++ value.spelled ++ " \x7d" := rfl

theorem spelledItems_cons (item : Node) (rest : List Node) :
    spelledItems (item :: rest) = item.spelled :: spelledItems rest := rfl

theorem spelledEntries_cons (k v : Node) (rest : List (Node × Node)) :
    spelledEntries ((k, v) :: rest) =
      (k.spelledKey ++ ": " ++ v.spelled) :: spelledEntries rest := by
  cases k <;> rfl

/-- the spelled form of the node is on one line exactly if each of its tags is -/
def TagsTell (node : Node) : Prop := OnOneLine node.spelled ↔ ∀ tag ∈ node.tags, OnOneLine tag

theorem TagsTell.of_untagged {node : Node} (h : node.tags = []) (hone : OnOneLine node.spelled) :
    node.TagsTell := ⟨fun _ => by rw [h]; exact nofun, fun _ => hone⟩

/-- a text that is on one line, behind the name of its kind -/
theorem onOneLine_wrapped {kind content : String} (hkind : OnOneLine kind)
    (h : OnOneLine content) : OnOneLine (kind ++ content ++ ")") := by
  rw [onOneLine_append_iff, onOneLine_append_iff]
  exact ⟨⟨hkind, h⟩, by decide⟩

/-- as a key a node is on one line exactly if it is by itself -/
theorem TagsTell.spelledKey {key : Node} (h : key.TagsTell) :
    OnOneLine key.spelledKey ↔ ∀ tag ∈ key.tags, OnOneLine tag := by
  cases key with
  | text s => exact ⟨fun _ => nofun, fun _ => onOneLine_quoteVisible s⟩
  | bool b => exact ⟨fun _ => nofun, fun _ => onOneLine_boolText b⟩
  | number n => exact ⟨fun _ => nofun, fun _ => n.onOneLine_scalarText⟩
  | _ => exact h

theorem onOneLine_spelledItems_iff {items : List Node} (ih : ∀ item ∈ items, item.TagsTell) :
    (∀ part ∈ spelledItems items, OnOneLine part) ↔ ∀ tag ∈ tagsOf items, OnOneLine tag := by
  induction items with
  | nil => exact ⟨fun _ => nofun, fun _ => nofun⟩
  | cons item rest ihs =>
    obtain ⟨hitem, hrest⟩ := List.forall_mem_cons.mp ih
    rw [spelledItems_cons, List.forall_mem_cons, ihs hrest, tagsOf, List.forall_mem_append]
    exact and_congr_left fun _ => hitem

theorem onOneLine_spelledEntries_iff {entries : List (Node × Node)}
    (ih : ∀ entry ∈ entries, entry.1.TagsTell ∧ entry.2.TagsTell) :
    (∀ part ∈ spelledEntries entries, OnOneLine part) ↔ ∀ tag ∈ tagsIn entries, OnOneLine tag := by
  induction entries with
  | nil => exact ⟨fun _ => nofun, fun _ => nofun⟩
  | cons entry rest ihs =>
    obtain ⟨⟨hkey, hvalue⟩, hrest⟩ := List.forall_mem_cons.mp ih
    have hcolon : OnOneLine ": " := by decide
    rw [spelledEntries_cons, List.forall_mem_cons, ihs hrest, tagsIn, List.forall_mem_append,
      List.forall_mem_append, onOneLine_append_iff, onOneLine_append_iff, hkey.spelledKey]
    simp only [hcolon, and_true]
    exact and_congr_left fun _ => and_congr_right fun _ => hvalue

/-- **The spelled form is on one line exactly if each of the tags is**: texts are quoted in it, and
tags are not. -/
theorem onOneLine_spelled_iff (node : Node) : node.TagsTell := by
  induction node using childInduction with
  | null => exact .of_untagged rfl (by decide)
  | bool b => exact .of_untagged rfl (onOneLine_wrapped (by decide) (onOneLine_boolText b))
  | number n => exact .of_untagged rfl (onOneLine_wrapped (by decide) n.onOneLine_scalarText)
  | text s => exact .of_untagged rfl (onOneLine_wrapped (by decide) (onOneLine_quoteVisible s))
  | sequence items ih =>
    rw [TagsTell, spelled_sequence, tags,
      onOneLine_enclosed_iff (by decide) (by decide) (by decide)]
    exact onOneLine_spelledItems_iff ih
  | mapping entries ih =>
    rw [TagsTell, spelled_mapping, tags,
      onOneLine_enclosed_iff (by decide) (by decide) (by decide)]
    exact onOneLine_spelledEntries_iff ih
  | tagged tag value ih =>
    have hopen : OnOneLine "TaggedValue \x7b tag: !" := by decide
    have hvalue : OnOneLine ", value: " := by decide
    have hclose : OnOneLine " \x7d" := by decide
    have hinside : OnOneLine value.spelled ↔ ∀ each ∈ value.tags, OnOneLine each := ih
    rw [TagsTell, spelled_tagged, tags, List.forall_mem_cons, ← hinside]
    simp only [onOneLine_append_iff, hopen, hvalue, hclose, true_and, and_true]

/-! ## descriptions -/

/-- **Which nodes are described on one line**: those whose keys can all be written, at any depth,
whatever their texts and tags are, and of the others those whose tags are all on one line. -/
theorem onOneLine_describe_iff (node : Node) :
    OnOneLine node.describe ↔
      (∀ key ∈ node.keys, key.jsonKey?.isSome) ∨ ∀ tag ∈ node.tags, OnOneLine tag := by
  rw [← isSome_json?_iff, describe]
  cases h : node.json? with
  | some shown => exact ⟨fun _ => .inl rfl, fun _ => node.onOneLine_json shown h⟩
  | none => exact ⟨fun hone => .inr (node.onOneLine_spelled_iff.mp hone),
      fun hor => node.onOneLine_spelled_iff.mpr (hor.resolve_left (by simp))⟩

/-- A tag with a line feed is shown as it is as soon as a key is null. -/
theorem describe_broken_tag :
    let broken : Node := .tagged "a\nb" (.mapping [(.null, .number (.int 1))])
    broken.describe =
        "TaggedValue \x7b tag: !a\nb, value: Mapping \x7bNull: Number(1)\x7d \x7d" ∧
      ¬ OnOneLine broken.describe ∧
      (Node.tagged "a\nb" .null).describe = "\x7b\"!a\\nb\":null\x7d" := by
  intro broken
  have hshown : broken.describe =
      "TaggedValue \x7b tag: !a\nb, value: Mapping \x7bNull: Number(1)\x7d \x7d" := by decide
  refine ⟨hshown, ?_, by decide⟩
  rw [hshown]
  decide

end Node

end SignalScript
