import AfsToken.CommandLine.Invocation
import AfsToken.Proofs.Cell.Principal
import AfsToken.Proofs.Octets.Reading
import AfsToken.Report

/-!
# Cells on the command line

The command that makes a token has the name of a cell and perhaps a realm among its words.  It is
carried out only if both pass their checks, so its cell is one of a checked name: the principal
falls into the name and the realm, and changing the case once more changes nothing.
-/

namespace AfsToken.CommandLine

open AfsToken.Cell AfsToken.Octets AfsToken.Text

/-! ## Where values come from -/

section Scan

variable {ω : Type} {grammar : Grammar ω} {argument : ω} {text word : String}
  {uses : List (Use ω)}

theorem Grammar.mem_options_of_lettersForm {start count : Nat} {letters : List Char}
    {option : ValueOption ω} {attached : Option String}
    (h : grammar.lettersForm start letters = .option count option attached) :
    option ∈ grammar.options := by
  induction letters generalizing start with
  | nil => cases h
  | cons letter rest ih =>
      unfold lettersForm at h
      split at h
      next found hfound =>
        cases h
        exact List.mem_of_find?_eq_some hfound
      next =>
        split at h
        · exact ih h
        · split at h
          · cases h
          · split at h <;> cases h

/-- A word is an option of the grammar, if it is one. -/
theorem Grammar.mem_options_of_form {count : Nat} {option : ValueOption ω}
    {attached : Option String} (h : grammar.form word = .option count option attached) :
    option ∈ grammar.options := by
  unfold form at h
  split at h
  · cases h
  · cases h
  · unfold longForm at h
    dsimp only at h
    split at h
    next found hfound =>
      cases h
      exact List.mem_of_find?_eq_some hfound
    next =>
      split at h
      · cases h
      · split at h <;> cases h
  · exact mem_options_of_lettersForm h
  · cases h

theorem Grammar.mem_of_place {slots : List ω} {words : List String}
    (h : place slots words = .ok uses) (huse : Use.value argument text ∈ uses) : text ∈ words := by
  fun_induction place slots words generalizing uses with
  | case1 =>
      cases h
      cases huse
  | case2 => cases h
  | case3 slot slots word rest ih =>
      obtain ⟨others, hothers, rfl⟩ := map_eq_ok_iff.mp h
      rcases List.mem_cons.mp huse with hword | hrest
      · cases hword
        exact List.mem_cons_self
      · exact List.mem_cons_of_mem _ (ih hothers hrest)

/-- A value of an argument that belongs to no option is one of the words. -/
theorem Grammar.mem_of_scan {slots : List ω} {words : List String}
    (hargument : ∀ option ∈ grammar.options, option.argument ≠ argument)
    (h : grammar.scan slots words = .ok uses) (huse : Use.value argument text ∈ uses) :
    text ∈ words := by
  -- The cases are the forms of the first word, in the order of the scan.
  fun_induction Grammar.scan grammar slots words generalizing uses with
  | case1 =>
      cases h
      cases huse
  | case2 => cases h
  | case3 => exact List.mem_cons_of_mem _ (mem_of_place h huse)
  | case4 slots word rest count hform ih =>
      obtain ⟨others, hothers, rfl⟩ := map_eq_ok_iff.mp h
      simp only [List.mem_cons, reduceCtorEq, false_or] at huse
      exact List.mem_cons_of_mem _ (ih hothers huse)
  | case5 => cases h
  | case6 word rest hform slot slots ih =>
      obtain ⟨others, hothers, rfl⟩ := map_eq_ok_iff.mp h
      simp only [List.mem_cons, Use.value.injEq] at huse
      rcases huse with ⟨-, rfl⟩ | hrest
      · exact List.mem_cons_self
      · exact List.mem_cons_of_mem _ (ih hothers hrest)
  | case7 slots word rest count option attached hform ih =>
      obtain ⟨others, hothers, rfl⟩ := map_eq_ok_iff.mp h
      simp only [List.cons_append, List.nil_append, List.mem_cons, reduceCtorEq, false_or,
        Use.value.injEq] at huse
      -- A value that is attached to an option is a part of the word, but not of this argument.
      rcases huse with ⟨rfl, -⟩ | hrest
      · exact absurd rfl (hargument option (mem_options_of_form hform))
      · exact List.mem_cons_of_mem _ (ih hothers hrest)
  | case8 =>
      cases h
      simp at huse
  | case9 slots word count option hform next rest htakes ih =>
      obtain ⟨others, hothers, rfl⟩ := map_eq_ok_iff.mp h
      simp only [List.cons_append, List.nil_append, List.mem_cons, reduceCtorEq, false_or,
        Use.value.injEq] at huse
      rcases huse with ⟨-, rfl⟩ | hrest
      · exact List.mem_cons_of_mem _ List.mem_cons_self
      · exact List.mem_cons_of_mem _ (List.mem_cons_of_mem _ (ih hothers hrest))
  | case10 slots word count option hform next rest htakes ih =>
      obtain ⟨others, hothers, rfl⟩ := map_eq_ok_iff.mp h
      simp only [List.cons_append, List.nil_append, List.mem_cons, reduceCtorEq, false_or] at huse
      exact List.mem_cons_of_mem _ (ih hothers huse)

variable [DecidableEq ω]

theorem Use.mem_values_iff : text ∈ values argument uses ↔ Use.value argument text ∈ uses := by
  rw [values, List.mem_filterMap]
  constructor
  · rintro ⟨use, huse, hvalue⟩
    cases use with
    | value other found =>
        simp only [valueOf, Option.ite_none_right_eq_some, Option.some.injEq] at hvalue
        obtain ⟨rfl, rfl⟩ := hvalue
        exact huse
    | verbose | bare => cases hvalue
  · intro huse
    exact ⟨_, huse, if_pos rfl⟩

/-- The text of an argument is one that is used for it. -/
theorem Use.mem_of_value? (h : value? argument uses = some text) :
    Use.value argument text ∈ uses :=
  mem_values_iff.mp (List.mem_of_mem_head? h)

end Scan

/-! ## The command that makes a token -/

section Token

variable {cell : Cell} {cacheName output : Option String}

theorem Value.isName_of_cell {text : String} (h : Value.cell text = .ok cell) :
    Cell.isName text = true := by
  unfold Value.cell at h
  split at h
  next hname => exact hname
  next => cases h

theorem Value.isRealm_of_realm {text : String} (h : Value.realm text = .ok ()) :
    Cell.isRealm text = true := by
  unfold Value.realm at h
  split at h
  next hrealm => exact hrealm
  next => cases h

/-- The cell of the command is made of the texts that are used for its name and its realm, and both
texts have passed their checks. -/
theorem Command.isMadeOf_of_ofTokenUses? {uses : List (Use TokenArgument)}
    (hcheck : checkTokenUses uses = .ok ())
    (h : ofTokenUses? uses = some (.token cell cacheName output)) :
    ∃ name realm, Use.value .cell name ∈ uses ∧ (∀ text ∈ realm, Use.value .realm text ∈ uses) ∧
      cell.IsMadeOf name realm := by
  obtain ⟨_, -, hcheck⟩ := bind_eq_ok_iff.mp hcheck
  obtain ⟨_, hname, hcheck⟩ := bind_eq_ok_iff.mp hcheck
  obtain ⟨_, hrealm, -⟩ := bind_eq_ok_iff.mp hcheck
  obtain ⟨name, hvalue, hcommand⟩ := Option.bind_eq_some_iff.mp h
  cases hcommand
  obtain ⟨_, hpassed⟩ := Use.check_of_checkValue hname hvalue
  refine ⟨name, Use.value? .realm uses, Use.mem_of_value? hvalue,
    fun text htext ↦ Use.mem_of_value? htext, Value.isName_of_cell hpassed, fun text htext ↦ ?_,
    rfl⟩
  obtain ⟨_, hpassed⟩ := Use.check_of_checkValue hrealm htext
  exact Value.isRealm_of_realm hpassed

/-- The command that derives makes no token. -/
theorem Command.ofDeriveUses?_ne_token {uses : List (Use DeriveArgument)} :
    ofDeriveUses? uses ≠ some (.token cell cacheName output) := by
  intro h
  obtain ⟨_, -, h⟩ := Option.bind_eq_some_iff.mp h
  obtain ⟨_, -, h⟩ := Option.bind_eq_some_iff.mp h
  obtain ⟨_, -, h⟩ := Option.bind_eq_some_iff.mp h
  obtain ⟨_, -, h⟩ := Option.bind_eq_some_iff.mp h
  cases h

/-- A command line whose command makes a token has the name and the realm of the cell among its
words. -/
theorem Invocation.isMadeOf_of_ofWords {words : List String} {verbosity : Nat}
    (h : ofWords words = .ok ⟨.token cell cacheName output, verbosity⟩) :
    ∃ name realm, name ∈ words ∧ (∀ text ∈ realm, text ∈ words) ∧ cell.IsMadeOf name realm := by
  replace h := ofWords_eq_ok_iff.mp h
  unfold parse at h
  split at h
  · cases h
  next word rest =>
    split at h
    · obtain ⟨uses, -, -, hcommand⟩ := of_ofUses h
      exact absurd hcommand.symm Command.ofDeriveUses?_ne_token
    · split at h
      · obtain ⟨uses, huses, hcheck, hcommand⟩ := of_ofUses h
        obtain ⟨name, realm, hname, hrealm, hmade⟩ :=
          Command.isMadeOf_of_ofTokenUses? hcheck hcommand.symm
        have hpositional : ∀ argument ∈ tokenGrammar.positionals,
            ∀ option ∈ tokenGrammar.options, option.argument ≠ argument := by
          decide
        have hword (argument : TokenArgument) (hargument : argument ∈ tokenGrammar.positionals)
            (text : String) (huse : Use.value argument text ∈ uses) : text ∈ word :: rest :=
          List.mem_cons_of_mem word
            (Grammar.mem_of_scan (hpositional argument hargument) huses huse)
        exact ⟨name, realm, hword .cell (by decide) name hname,
          fun text htext ↦ hword .realm (by decide) text (hrealm text htext), hmade⟩
      · split at h <;> cases h

end Token

/-- The cell of a checked name has a name and a realm that stand the checks again.  Its principal
falls into them in no more than one way, and changing the case of the name once more gives the cell
again.  The cell of a command line is the cell of a checked name. -/
theorem checks_outlast_folding :
    (∀ cell name realm, IsMadeOf cell name realm →
      (cell.name ≠ "" ∧ '/' ∉ cell.name.toList ∧ '@' ∉ cell.name.toList) ∧
      (cell.realm ≠ "" ∧ '@' ∉ cell.realm.toList) ∧
      (∀ service front back, SplitsInto cell.principal service front back ↔
        service = "afs" ∧ front = cell.name ∧ back = cell.realm) ∧
      Value.cell cell.name = .ok (make name none) ∧
      make cell.name (some cell.realm) = cell) ∧
    (∀ cell other name name' realm realm', IsMadeOf cell name realm →
      IsMadeOf other name' realm' →
      (cell.principal = other.principal → cell = other) ∧
      (cell.keyDescription = other.keyDescription ↔ cell.name = other.name)) ∧
    (∀ words cell cacheName output verbosity,
      Invocation.ofWords words = .ok ⟨.token cell cacheName output, verbosity⟩ →
      ∃ name realm, name ∈ words ∧ (∀ text ∈ realm, text ∈ words) ∧ IsMadeOf cell name realm) := by
  refine ⟨fun cell name realm h ↦ ?_, fun cell other name name' realm realm' h h' ↦ ?_,
    fun words cell cacheName output verbosity h ↦ Invocation.isMadeOf_of_ofWords h⟩
  · exact ⟨isName_iff.mp h.isValid.name, isRealm_iff.mp h.isValid.realm,
      fun _ _ _ ↦ h.isValid.splitsInto_iff, h.cell_name, h.make_name_realm⟩
  · exact ⟨h.isValid.eq_of_principal_eq h'.isValid, keyDescription_eq_iff⟩

/-- A sigma at the end of a name, and no realm: the name takes the final form of the sigma, and both
forms go back to the capital in the realm. -/
theorem checks_outlast_folding_of_finalSigma :
    let words := ["token", "-v", "ΣΑΣ"]
    let cell : Cell := ⟨"σας", "ΣΑΣ"⟩
    Invocation.ofWords words = .ok ⟨.token cell none none, 1⟩ ∧
      (∃ name realm, name ∈ words ∧ IsMadeOf cell name realm) ∧
      SplitsInto "afs/σας@ΣΑΣ" "afs" "σας" "ΣΑΣ" ∧
      Value.cell "σας" = .ok cell ∧
      (∀ other name realm, IsMadeOf other name realm → other.principal = "afs/σας@ΣΑΣ" →
        other = cell) := by
  intro words cell
  obtain ⟨hcell, hpair, hcommandLine⟩ := checks_outlast_folding
  have hwords : Invocation.ofWords words = .ok ⟨.token cell none none, 1⟩ := by decide +kernel
  have hmade : IsMadeOf cell "ΣΑΣ" none := ⟨by decide, by simp, by decide +kernel⟩
  have hprincipal : cell.principal = "afs/σας@ΣΑΣ" := by decide
  obtain ⟨-, -, hsplit, hagain, -⟩ := hcell cell _ _ hmade
  refine ⟨hwords, ?_, ?_, ?_, fun other name realm hother hsame ↦ ?_⟩
  · obtain ⟨name, realm, hname, -, h⟩ := hcommandLine _ _ _ _ _ hwords
    exact ⟨name, realm, hname, h⟩
  · rw [← hprincipal]
    exact (hsplit _ _ _).mpr ⟨rfl, rfl, rfl⟩
  · rw [hmade.eq_make]
    exact hagain
  · exact (hpair _ _ _ _ _ _ hother hmade).1 (hsame.trans hprincipal.symm)

end AfsToken.CommandLine
