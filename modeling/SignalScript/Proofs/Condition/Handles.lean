import SignalScript.Condition.Registry
import SignalScript.Proofs.Text.ByteOrder

/-!
# What a registry answers through its handles

However a registry is used, and through whichever of its handles, it answers from one list: all that
was registered, in the order of the registrations.

* `Registry.create?_registerAll`     the latest registration under a name is the one that is found;
* `Registry.increasing_registerAll`  the names stand in increasing order;
* `SharedRegistry.Use`               what is done with a registry through a handle;
* `SharedRegistry.run_eq`            a history registers what is registered in it, no more;
* `SharedRegistry.answers_congr`     further handles change no answer;
* `SharedRegistry.AnswersFrom`       the answers through one handle come from registrations;
* `SharedRegistry.every_handle_answers_from_registrations`  all handles answer from the same.
-/

namespace SignalScript

variable {π : Type}

/-! ## registering one after the other -/

namespace Registry

theorem mem_names_place_iff {name : String} {p : π} {entries : List (String × π)} {other : String} :
    other ∈ (place name p entries).map (·.1) ↔ other = name ∨ other ∈ entries.map (·.1) := by
  induction entries with
  | nil => simp [place_nil]
  | cons entry rest ih =>
    obtain ⟨each, q⟩ := entry
    by_cases hlt : name < each
    · simp [place, hlt]
    · by_cases heq : name = each
      · simp [place, heq]
      · simp only [place, hlt, heq, if_false, List.map_cons, List.mem_cons, ih, or_left_comm]

/-- each name is larger than the ones before it -/
def Increasing (entries : List (String × π)) : Prop := (entries.map (·.1)).Pairwise (· < ·)

theorem increasing_empty : Increasing (empty : Registry π).entries := List.Pairwise.nil

theorem Increasing.place {entries : List (String × π)} (h : Increasing entries) (name : String)
    (p : π) : Increasing (place name p entries) := by
  induction entries with
  | nil => exact List.pairwise_singleton _ _
  | cons entry rest ih =>
    obtain ⟨each, q⟩ := entry
    obtain ⟨hfirst, hrest⟩ := List.pairwise_cons.mp h
    -- the entry goes in front of the first one, in its place, or behind it
    by_cases hlt : name < each
    · rw [Registry.place, if_pos hlt]
      refine List.pairwise_cons.mpr ⟨fun other hother => ?_, h⟩
      obtain rfl | hmem := List.mem_cons.mp hother
      · exact hlt
      · exact String.lt_trans hlt (hfirst other hmem)
    · by_cases heq : name = each
      · rw [Registry.place, if_neg hlt, if_pos heq, heq]
        exact List.pairwise_cons.mpr ⟨hfirst, hrest⟩
      · have hafter : each < name := by
          obtain hbefore | hsame | hafter := Std.lt_trichotomy name each
          · exact absurd hbefore hlt
          · exact absurd hsame heq
          · exact hafter
        rw [Registry.place, if_neg hlt, if_neg heq]
        refine List.pairwise_cons.mpr ⟨fun other hother => ?_, ih hrest⟩
        obtain rfl | hmem := mem_names_place_iff.mp hother
        · exact hafter
        · exact hfirst other hmem

/-- placing an entry hides the entries of its name and no other -/
theorem create?_register (name : String) (p : π) (registry : Registry π) (other : String) :
    (registry.register name p).create? other = ((name, p) :: registry.entries).lookup other := by
  by_cases h : other = name
  · subst h
    rw [create?_register_self, List.lookup_cons_self]
  · have hne : (other == name) = false := by simp [h]
    rw [create?_register_ne h, List.lookup_cons, hne]
    rfl

theorem registerAll_cons (name : String) (p : π) (known : List (String × π))
    (registry : Registry π) :
    registry.registerAll ((name, p) :: known) = (registry.register name p).registerAll known := rfl

theorem registerAll_append (known more : List (String × π)) (registry : Registry π) :
    registry.registerAll (known ++ more) = (registry.registerAll known).registerAll more :=
  List.foldl_append

theorem create?_registerAll (known : List (String × π)) (registry : Registry π) (name : String) :
    (registry.registerAll known).create? name =
      (known.reverse ++ registry.entries).lookup name := by
  induction known generalizing registry with
  | nil => rfl
  | cons entry rest ih =>
    obtain ⟨n, p⟩ := entry
    -- read backwards, the first registration stands right in front of what was there before
    have hplace : (registry.register n p).entries.lookup name =
        ((n, p) :: registry.entries).lookup name := create?_register n p registry name
    rw [registerAll_cons, ih, List.lookup_append, hplace, List.reverse_cons, List.append_assoc,
      List.singleton_append, List.lookup_append]

theorem mem_names_registerAll_iff {known : List (String × π)} {registry : Registry π}
    {name : String} :
    name ∈ (registry.registerAll known).names ↔
      name ∈ known.map (·.1) ∨ name ∈ registry.names := by
  induction known generalizing registry with
  | nil => simp [registerAll]
  | cons entry rest ih =>
    have hplace : name ∈ (registry.register entry.1 entry.2).names ↔
        name = entry.1 ∨ name ∈ registry.names := mem_names_place_iff
    rw [registerAll_cons, ih, hplace, List.map_cons, List.mem_cons, or_left_comm, or_assoc]

theorem increasing_registerAll (known : List (String × π)) {registry : Registry π}
    (h : Increasing registry.entries) : Increasing (registry.registerAll known).entries := by
  induction known generalizing registry with
  | nil => exact h
  | cons entry rest ih =>
    rw [registerAll_cons]
    exact ih (h.place entry.1 entry.2)

theorem Increasing.bytes {entries : List (String × π)} (h : Increasing entries) :
    (entries.map (·.1)).Pairwise fun name other => Text.bytes name < Text.bytes other :=
  List.Pairwise.imp Text.bytes_lt h

/-- what is found after registering into an empty registry, by the last occurrence of the name -/
theorem create?_registerAll_empty_eq_some_iff {known : List (String × π)} {name : String} {p : π} :
    (empty.registerAll known).create? name = some p ↔
      ∃ before after, known = before ++ (name, p) :: after ∧ ∀ entry ∈ after, entry.1 ≠ name := by
  rw [create?_registerAll, empty, List.append_nil, List.lookup_eq_some_iff]
  -- look-up splits the reversed history, so the parts are reversed back
  constructor
  · rintro ⟨after, before, hknown, hafter⟩
    refine ⟨before.reverse, after.reverse, ?_, fun entry hentry heq => ?_⟩
    · rw [← List.reverse_reverse known, hknown]
      simp
    · simpa [heq] using hafter entry (List.mem_reverse.mp hentry)
  · rintro ⟨before, after, rfl, hafter⟩
    refine ⟨after.reverse, before.reverse, by simp, fun entry hentry => ?_⟩
    simpa using (hafter entry (List.mem_reverse.mp hentry)).symm

theorem create?_registerAll_empty_eq_none_iff {known : List (String × π)} {name : String} :
    (empty.registerAll known).create? name = none ↔ ∀ p, (name, p) ∉ known := by
  rw [create?_registerAll, empty, List.append_nil, List.lookup_eq_none_iff]
  constructor
  · intro h p hp
    simpa using h (name, p) (List.mem_reverse.mpr hp)
  · intro h entry hentry
    rw [bne_iff_ne]
    rintro rfl
    exact h entry.2 (List.mem_reverse.mp hentry)

end Registry

/-! ## histories -/

namespace SharedRegistry

/-- what is done with a registry through a handle on it -/
inductive Use (π : Type)
  | register (handle name : String) (p : π)
  | clone (handle copy : String)
  | create (handle name : String)
  | contains (handle name : String)
  | names (handle : String)

/-- what a use returns -/
inductive Answer (π : Type)
  | done
  | created (found : Option π)
  | held (b : Bool)
  | listed (names : List String)
  deriving DecidableEq, Repr

namespace Use

def handle : Use π → String
  | register handle _ _ | clone handle _ | create handle _ | contains handle _ | names handle =>
    handle

/-- what is registered -/
def entry? : Use π → Option (String × π)
  | register _ name p => some (name, p)
  | _ => none

/-- the handles there are afterwards -/
def live (handles : List String) : Use π → List String
  | clone _ copy => copy :: handles
  | _ => handles

def perform (shared : SharedRegistry π) : Use π → SharedRegistry π
  | register handle name p => shared.register handle name p
  | clone handle copy => shared.clone handle copy
  | _ => shared

/-- what is answered; there is no answer through a handle that was never given out -/
def answer (shared : SharedRegistry π) (use : Use π) : Option (Answer π) :=
  (shared.through? use.handle).map fun table =>
    match use with
    | register .. | clone .. => .done
    | create _ name => .created (table.create? name)
    | contains _ name => .held (table.contains name)
    | names _ => .listed table.names

end Use

def run (uses : List (Use π)) (shared : SharedRegistry π) : SharedRegistry π :=
  uses.foldl Use.perform shared

/-- what is answered to one use after the other -/
def answers : List (Use π) → SharedRegistry π → List (Option (Answer π))
  | [], _ => []
  | use :: rest, shared => use.answer shared :: answers rest (use.perform shared)

/-- every use goes through a handle that was given out before -/
def Valid : List String → List (Use π) → Prop
  | _, [] => True
  | handles, use :: rest => use.handle ∈ handles ∧ Valid (use.live handles) rest

def handlesAfter (handles : List String) (uses : List (Use π)) : List String :=
  uses.foldl Use.live handles

instance decidableValid : (handles : List String) → (uses : List (Use π)) →
    Decidable (Valid handles uses)
  | _, [] => isTrue trivial
  | handles, use :: rest =>
    haveI := decidableValid (use.live handles) rest
    inferInstanceAs (Decidable (use.handle ∈ handles ∧ Valid (use.live handles) rest))

theorem through?_of_mem {handle : String} {shared : SharedRegistry π}
    (h : handle ∈ shared.handles) : shared.through? handle = some shared.table :=
  if_pos (List.contains_iff_mem.mpr h)

/-- one use registers what it registers, no more, and gives out the handle that it gives out -/
theorem perform_eq {use : Use π} {shared : SharedRegistry π} (h : use.handle ∈ shared.handles) :
    use.perform shared =
      ⟨shared.table.registerAll use.entry?.toList, use.live shared.handles⟩ := by
  have hlive := List.contains_iff_mem.mpr h
  cases use with
  | register handle name p => exact if_pos hlive
  | clone handle copy => exact if_pos hlive
  | create | contains | names => rfl

/-- a history registers what is registered in it, through whichever handles -/
theorem run_eq {uses : List (Use π)} {shared : SharedRegistry π}
    (h : Valid shared.handles uses) :
    shared.run uses =
      ⟨shared.table.registerAll (uses.filterMap Use.entry?), handlesAfter shared.handles uses⟩ := by
  induction uses generalizing shared with
  | nil => rfl
  | cons use rest ih =>
    obtain ⟨hlive, hrest⟩ := h
    have hstep := perform_eq hlive
    have hvalid : Valid (use.perform shared).handles rest := by rwa [hstep]
    have hentries : (use :: rest).filterMap Use.entry? =
        use.entry?.toList ++ rest.filterMap Use.entry? := by
      cases use <;> rfl
    rw [hentries, Registry.registerAll_append]
    calc shared.run (use :: rest) = (use.perform shared).run rest := rfl
      _ = _ := by rw [ih hvalid, hstep]; rfl

theorem Valid.append {handles : List String} {before after : List (Use π)}
    (h : Valid handles (before ++ after)) :
    Valid handles before ∧ Valid (handlesAfter handles before) after := by
  induction before generalizing handles with
  | nil => exact ⟨trivial, h⟩
  | cons use rest ih =>
    obtain ⟨hlive, hrest⟩ := h
    obtain ⟨hbefore, hafter⟩ := ih hrest
    exact ⟨⟨hlive, hbefore⟩, hafter⟩

/-! ## uses that register nothing -/

theorem live_subset {handles more : List String} (h : handles ⊆ more) (use : Use π) :
    use.live handles ⊆ use.live more := by
  cases use with
  | clone handle copy => exact List.cons_subset_cons copy h
  | _ => exact h

/-- a use that registers nothing leaves the table, and the handles there are, as they stand -/
theorem perform_of_entry?_eq_none {query : Use π} (h : query.entry? = none)
    (shared : SharedRegistry π) : (query.perform shared).table = shared.table ∧
      shared.handles ⊆ (query.perform shared).handles := by
  cases query with
  | register => exact nomatch h
  | clone handle copy =>
    by_cases hlive : shared.handles.contains handle
    · rw [Use.perform, clone, if_pos hlive]
      exact ⟨rfl, List.subset_cons_self copy shared.handles⟩
    · rw [Use.perform, clone, if_neg hlive]
      exact ⟨rfl, List.Subset.refl _⟩
  | create | contains | names => exact ⟨rfl, List.Subset.refl _⟩

theorem answers_congr {uses : List (Use π)} {shared other : SharedRegistry π}
    (h : Valid shared.handles uses) (htable : other.table = shared.table)
    (hhandles : shared.handles ⊆ other.handles) : answers uses other = answers uses shared := by
  induction uses generalizing shared other with
  | nil => rfl
  | cons use rest ih =>
    obtain ⟨hlive, hrest⟩ := h
    have hother := hhandles hlive
    -- the other handles may be more, but this one is among them and the table is the same
    have hanswer : use.answer other = use.answer shared := by
      rw [Use.answer, Use.answer, through?_of_mem hlive, through?_of_mem hother, htable]
    have hafter : answers rest (use.perform other) = answers rest (use.perform shared) := by
      rw [perform_eq hlive, perform_eq hother, htable]
      exact ih hrest rfl (live_subset hhandles use)
    rw [answers, answers, hanswer, hafter]

/-! ## what every handle answers -/

/-- a registry answers through a handle as registrations in their order tell -/
structure AnswersFrom (known : List (String × π)) (handle : String) (shared : SharedRegistry π) :
    Prop where
  /-- a name is held if something was registered under it -/
  holds : ∀ name, ∃ b, (Use.contains handle name).answer shared = some (.held b) ∧
    (b = true ↔ ∃ p, (name, p) ∈ known)
  /-- what was registered last under exactly the name is created -/
  creates : ∀ name p, (Use.create handle name).answer shared = some (.created (some p)) ↔
    ∃ before after, known = before ++ (name, p) :: after ∧ ∀ entry ∈ after, entry.1 ≠ name
  /-- nothing is created if nothing was registered under exactly the name -/
  misses : ∀ name, (Use.create handle name).answer shared = some (.created none) ↔
    ∀ p, (name, p) ∉ known
  /-- the registered names are listed in the order of their bytes, so each of them once -/
  lists : ∃ names, (Use.names handle).answer shared = some (.listed names) ∧
    (∀ name, name ∈ names ↔ ∃ p, (name, p) ∈ known) ∧
    names.Pairwise fun name other => Text.bytes name < Text.bytes other

theorem answersFrom_of_mem {known : List (String × π)} {handle : String} {handles : List String}
    (h : handle ∈ handles) :
    AnswersFrom known handle ⟨Registry.empty.registerAll known, handles⟩ := by
  have hthrough : (⟨Registry.empty.registerAll known, handles⟩ : SharedRegistry π).through? handle =
      some (Registry.empty.registerAll known) := through?_of_mem h
  have hnone (name : String) : (Registry.empty.registerAll known).create? name = none ↔
      ∀ p, (name, p) ∉ known := Registry.create?_registerAll_empty_eq_none_iff
  constructor
  case holds =>
    intro name
    refine ⟨_, congrArg (Option.map _) hthrough, ?_⟩
    rw [Registry.contains, Option.isSome_iff_ne_none, ne_eq, hnone]
    simp
  case creates =>
    intro name p
    rw [← Registry.create?_registerAll_empty_eq_some_iff, Use.answer, Use.handle, hthrough]
    simp
  case misses =>
    intro name
    rw [← hnone, Use.answer, Use.handle, hthrough]
    simp
  case lists =>
    refine ⟨_, congrArg (Option.map _) hthrough, fun name => ?_, ?_⟩
    · rw [Registry.mem_names_registerAll_iff]
      simp [Registry.names, Registry.empty]
    · exact (Registry.increasing_registerAll known Registry.increasing_empty).bytes

/-- **All handles answer from the same registrations, the last of a name counting.** After any
history of uses of a new registry through handles on it that were given out before, every such
handle answers from what was registered through any of them; and a use that registers nothing, put
in anywhere, changes no later answer. -/
theorem every_handle_answers_from_registrations {first : String} (initial : List (String × π))
    {uses : List (Use π)} (h : Valid [first] uses) :
    let start := share first (Registry.empty.registerAll initial)
    (∀ handle ∈ handlesAfter [first] uses,
      AnswersFrom (initial ++ uses.filterMap Use.entry?) handle (start.run uses)) ∧
    ∀ (before : List (Use π)) (query : Use π) (after : List (Use π)), uses = before ++ after →
      query.entry? = none →
      answers after (query.perform (start.run before)) = answers after (start.run before) := by
  intro start
  constructor
  · intro handle hhandle
    have hrun : start.run uses =
        ⟨Registry.empty.registerAll (initial ++ uses.filterMap Use.entry?),
          handlesAfter [first] uses⟩ := by
      rw [Registry.registerAll_append]
      exact run_eq h
    rw [hrun]
    exact answersFrom_of_mem hhandle
  · rintro before query after rfl hquery
    obtain ⟨hbefore, hafter⟩ := h.append
    have hrun : start.run before = ⟨_, handlesAfter [first] before⟩ := run_eq hbefore
    obtain ⟨htable, hhandles⟩ := perform_of_entry?_eq_none hquery (start.run before)
    refine answers_congr ?_ htable hhandles
    rw [hrun]
    exact hafter

/-- Two copies, one made from the other: what is registered again through the second is what the
first handle creates. -/
theorem every_handle_answers_from_registrations_copies :
    let uses : List (Use Nat) :=
      [.clone "a" "b", .register "b" "Speed" 1, .clone "b" "c", .names "a",
        .register "c" "Speed" 2, .register "a" "Brake" 3]
    let shared := (share "a" (Registry.empty.registerAll [("speed", 0)])).run uses
    Valid ["a"] uses ∧ handlesAfter ["a"] uses = ["c", "b", "a"] ∧
      (Use.create "a" "Speed").answer shared = some (.created (some 2)) ∧
      (Use.names "b").answer shared = some (.listed ["Brake", "Speed", "speed"]) ∧
      ∀ handle ∈ ["c", "b", "a"],
        AnswersFrom [("speed", 0), ("Speed", 1), ("Speed", 2), ("Brake", 3)] handle shared := by
  intro uses shared
  have hvalid : Valid ["a"] uses := by decide
  have hevery := (every_handle_answers_from_registrations [("speed", 0)] hvalid).1
  refine ⟨hvalid, by decide, ?_, by decide, hevery⟩
  exact ((hevery "a" (by decide)).creates "Speed" 2).mpr
    ⟨[("speed", 0), ("Speed", 1)], [("Brake", 3)], rfl, by decide⟩

end SharedRegistry

end SignalScript
