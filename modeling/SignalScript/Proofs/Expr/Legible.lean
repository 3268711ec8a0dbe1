import SignalScript.Proofs.Expr.Reading

/-!
# Trees read back from their line

The line of a tree tells the tree apart from every other one, up to its cursors and to what is
behind its procedures. A node opens with a parenthesis and a word for its kind; words are free of
blanks and parentheses, so it is seen where the word ends. Behind the line of a child there is
either a blank, and another child, or the parenthesis that closes the node.

* `Text.word_append_inj`       a word is known from what it is followed by;
* `Expr.Kind`                  the kinds of nodes, each with a word of its own;
* `Expr.Legible`               no number stands in the tree, and the types are words;
* `Expr.ReadsBack`             the line of the tree is known from what it is followed by;
* `Expr.line_eq_line_iff`      legible trees have one line exactly if they have one shape.
-/

namespace SignalScript

/-! ## words -/

namespace Text

/-- a blank or a parenthesis -/
def isBreak (c : Char) : Bool := c == ' ' || c == '(' || c == ')'

/-- a text without blanks and parentheses; it may be empty -/
def IsWord (s : String) : Prop := ∀ c ∈ s.toList, isBreak c = false

instance (s : String) : Decidable (IsWord s) :=
  List.decidableBAll (isBreak · = false) s.toList

/-- the first character is a blank or a parenthesis -/
def Breaks (cs : List Char) : Prop := ∃ c rest, cs = c :: rest ∧ isBreak c = true

theorem takeWhile_word {s : String} {rest : List Char} (hs : IsWord s) (h : Breaks rest) :
    (s.toList ++ rest).takeWhile (!isBreak ·) = s.toList := by
  obtain ⟨c, rest, rfl, hc⟩ := h
  have hword : ∀ c ∈ s.toList, (!isBreak c) = true := fun c hmem => by rw [hs c hmem]; rfl
  rw [List.takeWhile_append_of_pos hword, List.takeWhile_cons_of_neg (by simp [hc]),
    List.append_nil]

/-- a word ends before the first break -/
theorem word_append_inj {s t : String} {a b : List Char} (hs : IsWord s) (ht : IsWord t)
    (ha : Breaks a) (hb : Breaks b) (h : s.toList ++ a = t.toList ++ b) : s = t ∧ a = b := by
  have hword : s.toList = t.toList := by
    rw [← takeWhile_word hs ha, h, takeWhile_word ht hb]
  exact ⟨String.toList_inj.mp hword, List.append_cancel_left (hword ▸ h)⟩

end Text

open Text

theorem isWord_boolText (b : Bool) : IsWord (boolText b) := by cases b <;> decide

theorem boolText_inj {a b : Bool} (h : boolText a = boolText b) : a = b := by
  cases a <;> cases b <;> first | rfl | exact absurd h (by decide)

theorem Policy.isWord_word (policy : Policy) : IsWord policy.word := by cases policy <;> decide

theorem Policy.word_inj {policy policy' : Policy} (h : policy.word = policy'.word) :
    policy = policy' := by
  cases policy <;> cases policy' <;> first | rfl | exact absurd h (by decide)

namespace Expr

variable {π ρ : Type}

/-! ## kinds of nodes -/

/-- what a node is, apart from what stands in it -/
inductive Kind where
  | nil
  | bool
  | number
  | junction (j : Junction)
  | not
  | procedure (role : Role)
  | sequential
  | parallel

/-- the word behind the parenthesis that opens a node -/
def Kind.word : Kind → String
  | nil => ""
  | bool => "Bool"
  | number => "Number"
  | junction j => j.word
  | not => "Not"
  | procedure role => role.word
  | sequential => "Sequential"
  | parallel => "Parallel"

theorem Kind.isWord_word (kind : Kind) : IsWord kind.word := by
  cases kind with
  | junction j => cases j <;> decide
  | procedure role => cases role <;> decide
  | _ => decide

/-- every kind has a word of its own -/
theorem Kind.word_inj {kind kind' : Kind} (h : kind.word = kind'.word) : kind = kind' := by
  rcases kind with _ | _ | _ | (_ | _) | _ | (_ | _) | _ | _ <;>
    rcases kind' with _ | _ | _ | (_ | _) | _ | (_ | _) | _ | _ <;>
    first | rfl | exact absurd h (by decide)

def kind : Expr (Procedure π) → Kind
  | .value .nil => .nil
  | .value (.bool _) => .bool
  | .value (.number _) => .number
  | .junction j _ => .junction j
  | .not _ => .not
  | .leaf p => .procedure p.role
  | .sequential _ _ => .sequential
  | .parallel _ _ => .parallel

/-! ## the line of a node -/

/-- the line of a tree in characters -/
def letters (e : Expr (Procedure π)) : List Char := e.line.toList

/-- trees next to each other, a blank before each, and the parenthesis behind the last -/
def lettersOf (es : List (Expr (Procedure π))) : List Char :=
  es.flatMap (fun e => ' ' :: e.letters) ++ [')']

/-- what follows the word of a node -/
def inside : Expr (Procedure π) → List Char
  | .value .nil => [')']
  | .value (.bool b) => ' ' :: (boolText b).toList ++ [')']
  | .value (.number x) => ' ' :: (NumberStyle.plain.write x).toList ++ [')']
  | .junction _ operands => lettersOf operands
  | .not operand => lettersOf [operand]
  | .leaf p => ' ' :: p.typeName.toList ++ [')']
  | .sequential passed pending => lettersOf (passed ++ pending)
  | .parallel policy children => ' ' :: policy.word.toList ++ lettersOf children

theorem toList_textOf (es : List (Expr (Procedure π))) :
    (textOf Procedure.text es).toList = es.flatMap fun e => ' ' :: e.letters := by
  induction es with
  | nil => rfl
  | cons e es ih => simp [textOf_cons, ih, letters, line]

/-- the line of a node: the parenthesis, its word, and what follows -/
theorem letters_eq (e : Expr (Procedure π)) :
    e.letters = '(' :: (e.kind.word.toList ++ e.inside) := by
  cases e with
  | value v => cases v <;> simp [letters, line, text, Value.text, kind, Kind.word, inside]
  | junction j operands =>
    simp [letters, line, text, toList_textOf, kind, Kind.word, inside, lettersOf]
  | not operand => simp [letters, line, text, kind, Kind.word, inside, lettersOf]
  | leaf p => simp [letters, line, text, Procedure.text, kind, Kind.word, inside]
  | sequential passed pending =>
    simp [letters, line, text, toList_textOf, kind, Kind.word, inside, lettersOf]
  | parallel policy children =>
    simp [letters, line, text, toList_textOf, kind, Kind.word, inside, lettersOf]

theorem breaks_lettersOf (es : List (Expr (Procedure π))) (rest : List Char) :
    Breaks (lettersOf es ++ rest) := by
  cases es with
  | nil => exact ⟨')', rest, rfl, rfl⟩
  | cons e es => exact ⟨' ', _, rfl, rfl⟩

theorem breaks_inside (e : Expr (Procedure π)) (rest : List Char) : Breaks (e.inside ++ rest) := by
  cases e with
  | value v =>
    cases v with
    | nil => exact ⟨')', rest, rfl, rfl⟩
    | bool b => exact ⟨' ', _, rfl, rfl⟩
    | number x => exact ⟨' ', _, rfl, rfl⟩
  | junction j operands => exact breaks_lettersOf operands rest
  | not operand => exact breaks_lettersOf [operand] rest
  | leaf p => exact ⟨' ', _, rfl, rfl⟩
  | sequential passed pending => exact breaks_lettersOf _ rest
  | parallel policy children => exact ⟨' ', _, rfl, rfl⟩

/-- lines that agree are those of nodes of one kind, and agree behind the word -/
theorem kind_eq_of_letters {e : Expr (Procedure π)} {f : Expr (Procedure ρ)} {r s : List Char}
    (h : e.letters ++ r = f.letters ++ s) : e.kind = f.kind ∧ e.inside ++ r = f.inside ++ s := by
  rw [letters_eq, letters_eq, List.cons_append, List.cons_append, List.append_assoc,
    List.append_assoc] at h
  obtain ⟨hword, hinside⟩ := word_append_inj e.kind.isWord_word f.kind.isWord_word
    (breaks_inside e r) (breaks_inside f s) (List.cons.inj h).2
  exact ⟨Kind.word_inj hword, hinside⟩

/-! ## legible trees -/

/-- trees of everything but numbers, in which the types of procedures are words -/
inductive Legible : Expr (Procedure π) → Prop
  | nil : Legible .nil
  | bool (b : Bool) : Legible (.bool b)
  | junction (j : Junction) {operands : List (Expr (Procedure π))}
      (h : ∀ e ∈ operands, Legible e) : Legible (.junction j operands)
  | not {operand : Expr (Procedure π)} (h : Legible operand) : Legible (.not operand)
  | leaf {p : Procedure π} (h : IsWord p.typeName) : Legible (.leaf p)
  | sequential {passed pending : List (Expr (Procedure π))}
      (h : ∀ e ∈ passed ++ pending, Legible e) : Legible (.sequential passed pending)
  | parallel (policy : Policy) {children : List (Expr (Procedure π))}
      (h : ∀ e ∈ children, Legible e) : Legible (.parallel policy children)

/-- Whatever it is followed by, the line of the tree is that of no other shape, and it is seen where
it ends. -/
def ReadsBack (ρ : Type) (e : Expr (Procedure π)) : Prop :=
  ∀ (f : Expr (Procedure ρ)) (r s : List Char), f.Legible → e.letters ++ r = f.letters ++ s →
    e.shape Procedure.title = f.shape Procedure.title ∧ r = s

/-- a word between a blank and a parenthesis is known, and so is what follows -/
theorem word_closed_inj {s t : String} {a b : List Char} (hs : IsWord s) (ht : IsWord t)
    (h : (' ' :: s.toList ++ [')']) ++ a = (' ' :: t.toList ++ [')']) ++ b) : s = t ∧ a = b := by
  simp only [List.cons_append, List.append_assoc, List.nil_append] at h
  obtain ⟨hword, hrest⟩ := word_append_inj hs ht ⟨')', a, rfl, rfl⟩ ⟨')', b, rfl, rfl⟩
    (List.cons.inj h).2
  exact ⟨hword, (List.cons.inj hrest).2⟩

/-- **Siblings are told apart**: a blank announces another child, a parenthesis the end. -/
theorem shapes_eq_of_lettersOf {es : List (Expr (Procedure π))} {fs : List (Expr (Procedure ρ))}
    {r s : List Char} (ih : ∀ e ∈ es, ReadsBack ρ e) (hfs : ∀ f ∈ fs, f.Legible)
    (h : lettersOf es ++ r = lettersOf fs ++ s) :
    es.map (shape Procedure.title) = fs.map (shape Procedure.title) ∧ r = s := by
  induction es generalizing fs with
  | nil =>
    cases fs with
    | nil => exact ⟨rfl, (List.cons.inj h).2⟩
    | cons f fs => exact absurd (List.cons.inj h).1 (by decide)
  | cons e es ihs =>
    cases fs with
    | nil => exact absurd (List.cons.inj h).1 (by decide)
    | cons f fs =>
      have hcons : ∀ {τ : Type} (g : Expr (Procedure τ)) (gs : List (Expr (Procedure τ)))
          (t : List Char), lettersOf (g :: gs) ++ t = ' ' :: (g.letters ++ (lettersOf gs ++ t)) :=
        fun g gs t => by simp [lettersOf]
      rw [hcons, hcons] at h
      obtain ⟨hfirst, hrest⟩ := ih e List.mem_cons_self f _ _ (hfs f List.mem_cons_self)
        (List.cons.inj h).2
      obtain ⟨hshapes, hend⟩ := ihs (fun e' he' => ih e' (List.mem_cons_of_mem _ he'))
        (fun f' hf' => hfs f' (List.mem_cons_of_mem _ hf')) hrest
      exact ⟨by rw [List.map_cons, List.map_cons, hfirst, hshapes], hend⟩

/-- **Legible trees are read back**, by induction on how they are built: the word of a node tells
its kind, and then the children are told apart one after the other. -/
theorem Legible.readsBack {e : Expr (Procedure π)} (he : e.Legible) : ReadsBack ρ e := by
  induction he with
  | nil =>
    intro f r s hf h
    obtain ⟨hkind, hinside⟩ := kind_eq_of_letters h
    cases hf with
    | nil => exact ⟨rfl, (List.cons.inj hinside).2⟩
    | _ => exact nomatch hkind
  | bool b =>
    intro f r s hf h
    obtain ⟨hkind, hinside⟩ := kind_eq_of_letters h
    cases hf with
    | bool b' =>
      obtain ⟨hword, hend⟩ := word_closed_inj (isWord_boolText b) (isWord_boolText b') hinside
      obtain rfl := boolText_inj hword
      exact ⟨rfl, hend⟩
    | _ => exact nomatch hkind
  | junction j hoperands ih =>
    intro f r s hf h
    obtain ⟨hkind, hinside⟩ := kind_eq_of_letters h
    cases hf with
    | junction j' hoperands' =>
      obtain rfl := Kind.junction.inj hkind
      obtain ⟨hshapes, hend⟩ := shapes_eq_of_lettersOf ih hoperands' hinside
      exact ⟨by rw [shape_junction, shape_junction, hshapes], hend⟩
    | _ => exact nomatch hkind
  | not hoperand ih =>
    intro f r s hf h
    obtain ⟨hkind, hinside⟩ := kind_eq_of_letters h
    cases hf with
    | not hoperand' =>
      obtain ⟨hshapes, hend⟩ := shapes_eq_of_lettersOf (List.forall_mem_singleton.mpr ih)
        (List.forall_mem_singleton.mpr hoperand') hinside
      exact ⟨by rw [shape_not, shape_not, (List.cons.inj hshapes).1], hend⟩
    | _ => exact nomatch hkind
  | leaf hword =>
    intro f r s hf h
    obtain ⟨hkind, hinside⟩ := kind_eq_of_letters h
    cases hf with
    | leaf hword' =>
      obtain ⟨htype, hend⟩ := word_closed_inj hword hword' hinside
      refine ⟨?_, hend⟩
      rw [shape_leaf, shape_leaf, Procedure.title, Procedure.title, Kind.procedure.inj hkind, htype]
    | _ => exact nomatch hkind
  | sequential hchildren ih =>
    intro f r s hf h
    obtain ⟨hkind, hinside⟩ := kind_eq_of_letters h
    cases hf with
    | sequential hchildren' =>
      obtain ⟨hshapes, hend⟩ := shapes_eq_of_lettersOf ih hchildren' hinside
      exact ⟨by rw [shape_sequential, shape_sequential, hshapes], hend⟩
    | _ => exact nomatch hkind
  | parallel policy hchildren ih =>
    intro f r s hf h
    obtain ⟨hkind, hinside⟩ := kind_eq_of_letters h
    cases hf with
    | parallel policy' hchildren' =>
      -- the policy ends where the first child, or the end of the node, begins
      simp only [inside, List.cons_append, List.append_assoc] at hinside
      obtain ⟨hpolicy, hrest⟩ := word_append_inj policy.isWord_word policy'.isWord_word
        (breaks_lettersOf _ r) (breaks_lettersOf _ s) (List.cons.inj hinside).2
      obtain rfl := Policy.word_inj hpolicy
      obtain ⟨hshapes, hend⟩ := shapes_eq_of_lettersOf ih hchildren' hrest
      exact ⟨by rw [shape_parallel, shape_parallel, hshapes], hend⟩
    | _ => exact nomatch hkind

/-- **The line of a tree determines the tree.** Two trees without numbers, whose procedures have
types without blanks and parentheses, have the same line exactly if they are of the same shape: the
same nodes with the same booleans and policies, procedures of the same roles and types, and the same
children in the same order. -/
theorem line_eq_line_iff {e : Expr (Procedure π)} {f : Expr (Procedure ρ)} (he : e.Legible)
    (hf : f.Legible) : e.line = f.line ↔ e.shape Procedure.title = f.shape Procedure.title := by
  constructor
  · intro h
    have hletters : e.letters ++ [] = f.letters ++ [] := congrArg (·.toList ++ []) h
    exact (he.readsBack f [] [] hf hletters).1
  · intro h
    have hline : ∀ {τ : Type} (g : Expr (Procedure τ)),
        g.line = (g.shape Procedure.title).text Procedure.titleText :=
      fun g => (text_shape Procedure.title Procedure.titleText g).symm
    rw [hline e, hline f, h]

/-- something that may be done in its turn, for which there is no condition -/
def waving : Expr (Procedure Builtin) :=
  .parallel .any [.nil, .leaf ⟨.action, "Wave", .missing "WaveCondition"⟩]

/-- The line of a sequence does not show its cursor, and neither does its shape. -/
theorem line_eq_line_iff_waving :
    let fresh : Expr (Procedure Builtin) := .sequential [] [.not (.bool false), waving]
    let later : Expr (Procedure Builtin) := .sequential [.not (.bool false)] [waving]
    fresh.line = "(Sequential (Not (Bool false)) (Parallel Any () (Action Wave)))" ∧
      later.line = fresh.line ∧ fresh.Legible ∧ later.Legible ∧
      fresh.shape Procedure.title = later.shape Procedure.title := by
  intro fresh later
  have hwaving : waving.Legible := .parallel .any
    (List.forall_mem_cons.mpr ⟨.nil, List.forall_mem_singleton.mpr (.leaf (by decide))⟩)
  have hchildren : ∀ e ∈ [Expr.not (.bool false), waving], e.Legible :=
    List.forall_mem_cons.mpr ⟨.not (.bool false), List.forall_mem_singleton.mpr hwaving⟩
  have hfresh : fresh.Legible := .sequential hchildren
  have hlater : later.Legible := .sequential hchildren
  have hline : fresh.line = "(Sequential (Not (Bool false)) (Parallel Any () (Action Wave)))" := by
    decide
  have hsame : later.line = fresh.line := by decide
  exact ⟨hline, hsame, hfresh, hlater, (line_eq_line_iff hfresh hlater).mp hsame.symm⟩

end Expr

end SignalScript
