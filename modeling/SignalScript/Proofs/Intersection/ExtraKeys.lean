import SignalScript.Proofs.Intersection.Construction

/-!
# Extra keys of an entry

An entry of a state list keeps its extra keys, and they count for nothing, as long as they are
texts. An extra key that is no text has the whole entry refused, and the state is lost with it; so
does a key that only a tag distinguishes from that of a field.

* `Node.given_of_plain`        without tags on the keys, a field is given what is found under it;
* `Node.specifies_iff_orderly`   an entry that has a name is accepted exactly if it is orderly;
* `Intersection.states_of_listed`  errors and states of a block that has a state list;
* `Intersection.extra_keys`    what becomes of an entry, by its keys;
* `Intersection.numbered_key_loses_state`  the number that takes a state away.
-/

namespace SignalScript

namespace Node

variable {entry value : Node} {pairs : List (Node × Node)}

/-! ## plain keys -/

theorem given_eq_nil {key : String} (hplain : ∀ pair ∈ pairs, ∃ name, pair.1 = .text name)
    (hnew : .text key ∉ pairs.map (·.1)) : given key pairs = [] := by
  rw [given, List.map_eq_nil_iff, List.filter_eq_nil_iff]
  intro pair hpair htext
  obtain ⟨name, hname⟩ := hplain pair hpair
  have hkey : name = key := by simpa [hname, untag, isText] using htext
  exact hnew (List.mem_map.mpr ⟨pair, hpair, hkey ▸ hname⟩)

/-- where every key is a text without a tag, and stands once, a field is given what is found -/
theorem given_of_plain (key : String) (hplain : ∀ pair ∈ pairs, ∃ name, pair.1 = .text name)
    (hnodup : (pairs.map (·.1)).Nodup) :
    given key pairs = (lookup key pairs).toList.map untag := by
  induction pairs with
  | nil => rfl
  | cons pair rest ih =>
    obtain ⟨other, value⟩ := pair
    obtain ⟨⟨name, hname⟩, hrest⟩ := List.forall_mem_cons.mp hplain
    obtain ⟨hnew, hdistinct⟩ := List.nodup_cons.mp hnodup
    obtain rfl : other = .text name := hname
    rw [lookup_cons]
    by_cases hkey : name = key
    · subst hkey
      rw [given_cons_self rfl, given_eq_nil hrest hnew, if_pos (by simp [isText])]
      rfl
    · rw [given_cons_ne rfl hkey, if_neg (by simp [isText, hkey])]
      exact ih hrest hdistinct

/-- plain keys are orderly, whatever they are, if what is found under those of the fields are
texts -/
theorem orderly_of_plain (hpairs : entry.untag = .mapping pairs)
    (hplain : ∀ pair ∈ pairs, ∃ name, pair.1 = .text name) (hnodup : (pairs.map (·.1)).Nodup)
    (htexts : ∀ (field : Payload.Field) (found : Node), entry.get? field.key = some found →
      ∃ content, found.untag = .text content) : Orderly pairs where
  keys pair hpair := by
    obtain ⟨name, hname⟩ := hplain pair hpair
    exact ⟨name, congrArg untag hname⟩
  fields field := by
    have hget : entry.get? field.key = lookup field.key pairs := by rw [get?, hpairs]
    rw [given_of_plain field.key hplain hnodup, ← hget]
    cases hfound : entry.get? field.key with
    | none => exact ⟨none, rfl⟩
    | some found =>
      obtain ⟨content, hcontent⟩ := htexts field found hfound
      exact ⟨some content, by simp [written, hcontent]⟩

/-! ## orderly entries -/

/-- what a field that is found has been given is its text -/
theorem eq_text_of_named {name : String} {text? : Option String}
    (hvalue : entry.get? "StateName" = some value) (hpairs : entry.untag = .mapping pairs)
    (hname : value.untag = .text name) (hgiven : given "StateName" pairs = written text?) :
    text? = some name := by
  have hmem := Payload.untag_mem_given_of_named hvalue hpairs
  rw [hgiven, hname, written] at hmem
  cases text? with
  | none => exact absurd hmem List.not_mem_nil
  | some content => simpa [eq_comm] using hmem

/-- an entry that is accepted is accepted under the name that it is found to have -/
theorem Specifies.name_eq {name : String} {payload : Payload} (h : entry.Specifies payload)
    (hvalue : entry.get? "StateName" = some value) (hname : value.untag = .text name) :
    payload.name = name := by
  obtain ⟨pairs, color, arrow, hpairs, _, hgiven, _⟩ := h.fields
  exact Option.some.inj (eq_text_of_named hvalue hpairs hname hgiven)

/-- an entry with a name is accepted exactly if it is orderly -/
theorem specifies_iff_orderly {name : String} (hvalue : entry.get? "StateName" = some value)
    (hpairs : entry.untag = .mapping pairs) (hname : value.untag = .text name) :
    (∃ payload, entry.Specifies payload) ↔ Orderly pairs := by
  constructor
  · rintro ⟨payload, hpayload⟩
    obtain ⟨found, color, arrow, hfound, hkeys, hgiven, hcolor, _, harrow, _⟩ := hpayload.fields
    obtain rfl : found = pairs := by
      rw [hpairs] at hfound
      exact (Node.mapping.inj hfound).symm
    refine ⟨hkeys, fun field => ?_⟩
    cases field with
    | name => exact ⟨some payload.name, hgiven⟩
    | color => exact ⟨color, hcolor⟩
    | arrow => exact ⟨arrow, harrow⟩
  · intro horderly
    obtain ⟨text?, hgiven⟩ := horderly.fields .name
    obtain ⟨color, hcolor⟩ := horderly.fields .color
    obtain ⟨arrow, harrow⟩ := horderly.fields .arrow
    obtain rfl := eq_text_of_named hvalue hpairs hname hgiven
    exact ⟨⟨name, color.getD "Blank", arrow.getD "Blank", entry⟩,
      rfl, ⟨value, hvalue⟩, pairs, color, arrow, hpairs, horderly.keys, hgiven, hcolor, rfl,
        harrow, rfl⟩

end Node

namespace Payload

open Node

variable {entry value : Node}

/-- an entry with a name that is refused is refused for a value of the state list -/
theorem refusal?_of_named (hvalue : entry.get? "StateName" = some value)
    (hrefused : refusal? entry ≠ none) :
    ∃ reason, refusal? entry = some (.invalidValue "Control" reason) := by
  obtain ⟨pairs, hpairs⟩ := exists_mapping_of_named hvalue
  rw [refusal?, ofNode?_of_named hvalue hpairs] at hrefused ⊢
  cases hread : readFields pairs {} with
  | ok fields =>
    rw [hread] at hrefused
    exact absurd rfl hrefused
  | error reason => exact ⟨reason, rfl⟩

end Payload

namespace Intersection

open Node Payload

/-- a block with a state list has the errors and the states of its entries -/
theorem states_of_listed {block : Node} {entries : List Node}
    (h : block.get? "Control" = some (.sequence entries)) :
    (ofNode block).1.errors = (readIds block).2.1 ++ entries.filterMap refusal? ∧
      ∀ name, defined? name (ofNode block).1.states = defined? name (accepted entries) := by
  have haccounts := accounts_readStates entries []
  have hstates : (ofNode block).1.states = (readStates entries []).states := by
    show (readControl block).states = _
    rw [readControl, h]
  refine ⟨?_, fun name => ?_⟩
  · show (readIds block).2.1 ++ (readControl block).errors = _
    rw [readControl, h, ← haccounts.errors]
  · rw [hstates, haccounts.first, List.nil_append]

/-- **Extra keys do not count in an entry that is orderly**, and so in no entry whose keys are texts
without tags: it is no error, it is the state of its name unless an earlier entry is, and it stands
behind that state as it was written. An entry that is not orderly is refused, whatever else it
says, and its name is off unless another entry stands for it. -/
theorem extra_keys {block entry value : Node} {before behind : List Node}
    {pairs : List (Node × Node)} {name : String}
    (hlist : block.get? "Control" = some (.sequence (before ++ entry :: behind)))
    (hpairs : entry.untag = .mapping pairs) (hvalue : entry.get? "StateName" = some value)
    (hname : value.untag = .text name) :
    let i := (ofNode block).1
    ((∀ pair ∈ pairs, ∃ key, pair.1 = .text key) → (pairs.map (·.1)).Nodup →
      (∀ (field : Field) (found : Node), entry.get? field.key = some found →
        ∃ content, found.untag = .text content) → Orderly pairs) ∧
    i.errors = (readIds block).2.1 ++ before.filterMap refusal? ++ (refusal? entry).toList ++
      behind.filterMap refusal? ∧
    (Orderly pairs → refusal? entry = none ∧
      (¬ Defines before name → i.hasState name = true ∧ (i.state name).raw = entry)) ∧
    (¬ Orderly pairs → (∃ reason, refusal? entry = some (.invalidValue "Control" reason)) ∧
      (¬ Defines (before ++ behind) name →
        i.hasState name = false ∧ i.state name = Payload.blank)) := by
  intro i
  obtain ⟨herrors, hstates⟩ := states_of_listed hlist
  have horderly := specifies_iff_orderly hvalue hpairs hname
  refine ⟨orderly_of_plain hpairs, ?_, fun h => ?_, fun h => ?_⟩
  · rw [herrors, List.filterMap_append, List.filterMap_cons]
    cases refusal? entry <;> simp
  · obtain ⟨payload, hpayload⟩ := horderly.mpr h
    refine ⟨refusal?_eq_none_iff.mpr ⟨payload, hpayload⟩, fun hbefore => ?_⟩
    have hfirst : First (before ++ entry :: behind) name payload := by
      refine ⟨before, entry, behind, rfl, hpayload, hpayload.name_eq hvalue hname, ?_⟩
      intro earlier hearlier other hother hsame
      exact hbefore ⟨earlier, hearlier, other, hother, hsame⟩
    have hdefined : defined? name i.states = some payload :=
      (hstates name).trans (first_iff.mp hfirst)
    rw [hasState, state, hdefined]
    exact ⟨rfl, hpayload.raw⟩
  · have hnone : ∀ payload, ¬ entry.Specifies payload := by
      intro payload hpayload
      exact h (horderly.mp ⟨payload, hpayload⟩)
    refine ⟨refusal?_of_named hvalue (fun hrefused => ?_), fun hothers => ?_⟩
    · obtain ⟨payload, hpayload⟩ := refusal?_eq_none_iff.mp hrefused
      exact hnone payload hpayload
    · have hundefined : ¬ Defines (before ++ entry :: behind) name := by
        rintro ⟨other, hother, payload, hpayload, hsame⟩
        rw [List.mem_append, List.mem_cons] at hother
        obtain hbefore | rfl | hbehind := hother
        · exact hothers ⟨other, List.mem_append_left _ hbefore, payload, hpayload, hsame⟩
        · exact hnone payload hpayload
        · exact hothers ⟨other, List.mem_append_right _ hbehind, payload, hpayload, hsame⟩
      have hdefined : defined? name i.states = none := by
        rw [hstates, ← Option.not_isSome_iff_eq_none, isSome_defined?_accepted]
        exact hundefined
      rw [hasState, state, hdefined]
      exact ⟨rfl, rfl⟩

/-- a block with one light and one state -/
def blockOf (pairs : List (Node × Node)) : Node :=
  .mapping [(.text "TrafficLightId", .sequence [.number (.int 1)]),
    (.text "Control", .sequence [.mapping pairs])]

/-- The entry says that it blinks, and how; neither is read, and both are kept. -/
theorem extra_keys_blinking :
    let pairs : List (Node × Node) := [(.text "Blink", .number (.int 2)),
      (.text "StateName", .text "Go"), (.text "Phases", .sequence [.null, .text "Arrow"])]
    let i := (ofNode (blockOf pairs)).1
    i.hasState "Go" = true ∧ (i.state "Go").raw = .mapping pairs := by
  intro pairs i
  have hlist : (blockOf pairs).get? "Control" = some (.sequence ([] ++ [.mapping pairs])) := rfl
  have h := extra_keys hlist rfl rfl rfl
  have horderly : Node.Orderly pairs :=
    ⟨by simp [pairs, Node.untag], fun field => by
      cases field
      · exact ⟨some "Go", rfl⟩
      · exact ⟨none, rfl⟩
      · exact ⟨none, rfl⟩⟩
  refine (h.2.2.1 horderly).2 fun hbefore => ?_
  obtain ⟨other, hother, _⟩ := hbefore
  exact absurd hother List.not_mem_nil

/-- The key `1` beside the fields takes the state away, and its colour with it. -/
theorem numbered_key_loses_state :
    let pairs : List (Node × Node) :=
      [(.text "StateName", .text "Go"), (.text "Color", .text "Green"),
        (.number (.int 1), .text "x")]
    let entry : Node := .mapping pairs
    let i := (ofNode (blockOf pairs)).1
    entry.get? "StateName" = some (.text "Go") ∧ entry.get? "Color" = some (.text "Green") ∧
      entry.get? "Arrow" = none ∧
      i.errors.map (·.message) = ["Invalid value for key 'Control': invalid type: integer `1`, " ++
        "expected field identifier"] ∧
      i.hasState "Go" = false ∧ (i.state "Go").color = "Blank" ∧ (i.state "Go").raw = .null := by
  refine ⟨rfl, rfl, rfl, ?_, rfl, rfl, rfl⟩
  decide

end Intersection

end SignalScript
