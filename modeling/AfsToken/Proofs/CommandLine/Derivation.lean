import AfsToken.CommandLine.Answer
import AfsToken.Proofs.Octets.Hex
import AfsToken.Proofs.Text.Decimal
import Mathlib.Data.List.Basic

/-!
# The command that derives

The two arguments of the command are texts.  The command reaches the derivation exactly if one is a
numeral of 32 bits and the other is hexadecimal notation, and then it derives from the key block
that they write.  It puts out the session key if there is one, and nothing otherwise.
-/

namespace AfsToken.CommandLine

open AfsToken.Octets AfsToken.Text

/-! ## Reading words -/

theorem startsOption_eq_false {word : String} (h : word.toList.head? ≠ some '-') :
    startsOption word = false := by
  unfold startsOption
  split
  next heq => simp [heq] at h
  next => rfl

/-- An option takes the word behind it. -/
theorem Grammar.scan_of_takes {ω : Type} {grammar : Grammar ω} {slots : List ω}
    {word next : String} {rest : List String} {count : Nat} {option : ValueOption ω}
    (hform : grammar.form word = .option count option none) (htakes : option.takes next = true) :
    grammar.scan slots (word :: next :: rest) =
      ([Use.verbose count, Use.value option.argument next] ++ ·) <$> grammar.scan slots rest := by
  rw [Grammar.scan.eq_def]
  simp only [hform, htakes, if_true]

/-- An argument that is used once is refused exactly if its text does not pass the check. -/
theorem Use.checkValue_of_singleton {ω α : Type} [DecidableEq ω] {argument : ω}
    {text name : String} {check : String → Except RequestFault α} {uses : List (Use ω)}
    (hvalues : values argument uses = [text]) (hcount : count argument uses = 1) :
    checkValue argument name check uses =
      ((check text).map fun _ ↦ ()).mapError (Refusal.invalid name) := by
  rw [checkValue, hvalues, hcount]
  cases hcheck : check text <;> simp [hcheck, faultOf?] <;> rfl

/-! ## Key blocks -/

/-- The words that derive from the key block of two texts. -/
def deriveWords (etype key : String) : List String := ["derive", "-e", etype, "-k", key]

/-- What the words use. -/
def deriveUses (etype key : String) : List (Use DeriveArgument) :=
  [.verbose 0, .value .etype etype, .verbose 0, .value .key key]

/-- Two texts are the numeral of an encryption type and the notation of the octets of a key. -/
structure WritesKey (etype key : String) (material : KeyMaterial) : Prop where
  etype : Decimal.Writes etype.toList material.etype.toInt
  octets : Hex.Writes key material.octets

section Words

variable {etype key : String}

theorem Value.key_eq_ok_iff {octets : Octets} :
    Value.key key = .ok octets ↔ Hex.Writes key octets := by
  rw [← Hex.decode_eq_ok_iff, Value.key, Report.mapError_eq_ok_iff]

/-- The key block of two texts is what their readings give. -/
theorem writesKey_iff {number : Enctype} {octets : Octets} :
    WritesKey etype key ⟨number, octets⟩ ↔
      Decimal.int32? etype = some number ∧ Value.key key = .ok octets := by
  rw [Decimal.int32?_eq_some_iff, Value.key_eq_ok_iff]
  exact ⟨fun h ↦ ⟨h.etype, h.octets⟩, fun h ↦ ⟨h.1, h.2⟩⟩

/-- Two texts write no more than one key block. -/
theorem WritesKey.unique {material other : KeyMaterial} (h : WritesKey etype key material)
    (hother : WritesKey etype key other) : material = other := by
  obtain ⟨number, octets⟩ := material
  obtain ⟨otherNumber, otherOctets⟩ := other
  obtain ⟨hnumber, hoctets⟩ := writesKey_iff.mp h
  obtain ⟨hotherNumber, hotherOctets⟩ := writesKey_iff.mp hother
  cases hnumber.symm.trans hotherNumber
  cases hoctets.symm.trans hotherOctets
  rfl

/-- Every number and all octets are written by their own notations, in letters of any case. -/
theorem writesKey_ofInt {number : Int32} {octets : Octets}
    (h : key.toList.map Char.toLower = (Hex.encode octets).toList) :
    WritesKey (Decimal.ofInt number.toInt) key ⟨number, octets⟩ where
  etype := Decimal.int32?_eq_some_iff.mp (Decimal.int32?_ofInt number)
  octets := h

/-- A key block is written exactly if one text is a numeral in range and the other has digits in
pairs. -/
theorem exists_writesKey_iff :
    (∃ material, WritesKey etype key material) ↔
      (∃ value, Decimal.Writes etype.toList value ∧ -2 ^ 31 ≤ value ∧ value < 2 ^ 31) ∧
        key.length % 2 = 0 ∧ ∀ c ∈ key.toList, Hex.IsDigit c := by
  rw [← Hex.exists_writes_iff]
  constructor
  · rintro ⟨material, hetype, hoctets⟩
    exact ⟨⟨_, hetype, material.etype.le_toInt, material.etype.toInt_lt⟩, _, hoctets⟩
  · rintro ⟨⟨value, hvalue, hlow, hhigh⟩, octets, hoctets⟩
    refine ⟨⟨Int32.ofInt value, octets⟩, ?_, hoctets⟩
    rw [Int32.toInt_ofInt_of_le hlow hhigh]
    exact hvalue

/-! ## The command line -/

variable (hkey : key.toList.head? ≠ some '-')

include hkey

theorem uses_derive :
    deriveGrammar.uses ["-e", etype, "-k", key] = .ok (deriveUses etype key) := by
  have hetypeForm : deriveGrammar.form "-e" = .option 0 ⟨.etype, ["etype"], 'e', true⟩ none := rfl
  have hkeyForm : deriveGrammar.form "-k" = .option 0 ⟨.key, ["key"], 'k', false⟩ none := rfl
  rw [Grammar.uses, Grammar.scan_of_takes hetypeForm rfl, Grammar.scan_of_takes hkeyForm,
    Grammar.scan]
  · rfl
  · rw [ValueOption.takes, startsOption_eq_false hkey]
    rfl

theorem parse_deriveWords :
    Invocation.parse (deriveWords etype key) = (do
      checkDeriveUses (deriveUses etype key)
      return (Command.ofDeriveUses? (deriveUses etype key)).map (⟨·, 0⟩)) := by
  have hname : "derive" = deriveName := rfl
  rw [deriveWords, Invocation.parse, if_pos hname, Invocation.ofUses, uses_derive hkey]
  rfl

/-- The texts write a key block that is derived from, or one of them is refused. -/
theorem parse_deriveWords_cases :
    (∃ material, WritesKey etype key material ∧
      Invocation.parse (deriveWords etype key) = .ok (some ⟨.derive material, 0⟩)) ∨
    (¬∃ material, WritesKey etype key material) ∧
      ∃ argument fault, Invocation.parse (deriveWords etype key) =
        .error (.invalid argument fault) := by
  have hetypeUse : Use.values .etype (deriveUses etype key) = [etype] := rfl
  have hkeyUse : Use.values .key (deriveUses etype key) = [key] := rfl
  have hpresent : Use.checkPresent [.etype, .key] [] (deriveUses etype key) = .ok () := rfl
  rw [parse_deriveWords hkey, checkDeriveUses, hpresent, Use.checkValue_of_singleton hetypeUse rfl,
    Use.checkValue_of_singleton hkeyUse rfl, Command.ofDeriveUses?, Use.value?, Use.value?,
    hetypeUse, hkeyUse, Value.etype]
  cases hnumber : Decimal.int32? etype with
  | none =>
      refine .inr ⟨?_, _, _, rfl⟩
      rintro ⟨⟨number, octets⟩, h⟩
      cases hnumber.symm.trans (writesKey_iff.mp h).1
  | some number =>
      cases hoctets : Value.key key with
      | error fault =>
          refine .inr ⟨?_, _, fault, rfl⟩
          rintro ⟨⟨number, octets⟩, h⟩
          cases hoctets.symm.trans (writesKey_iff.mp h).2
      | ok octets =>
          refine .inl ⟨⟨number, octets⟩, writesKey_iff.mpr ⟨hnumber, hoctets⟩, ?_⟩
          simp only [List.head?_cons, Option.bind_eq_bind, Option.bind_some, hnumber, hoctets,
            Except.toOption]
          rfl

/-- The words are an invocation exactly if the texts write the key block that it derives from. -/
theorem parse_deriveWords_eq_ok_iff {invocation : Invocation} :
    Invocation.parse (deriveWords etype key) = .ok (some invocation) ↔
      ∃ material, invocation = ⟨.derive material, 0⟩ ∧ WritesKey etype key material := by
  rcases parse_deriveWords_cases hkey with
    ⟨material, hwrites, hwords⟩ | ⟨hnone, argument, fault, hwords⟩
  · rw [hwords, Except.ok.injEq, Option.some.injEq]
    constructor
    · rintro rfl
      exact ⟨material, rfl, hwrites⟩
    · rintro ⟨other, rfl, hother⟩
      rw [hother.unique hwrites]
  · rw [hwords]
    refine iff_of_false (fun h ↦ by cases h) ?_
    rintro ⟨material, -, hwrites⟩
    exact hnone ⟨material, hwrites⟩

end Words

/-! ## Answers -/

theorem outcome_deriveReport (material : KeyMaterial) :
    (deriveReport material).outcome =
      (material.sessionKey.outcome.mapError fun fault ↦ .failure (.derivation fault)).map
        (deriveOutput (KeyPath.choose material.etype material.length)) := by
  rw [deriveReport, Report.outcome_note_bind, Report.outcome_bind, Report.outcome_mapFault]
  cases material.sessionKey.outcome <;> rfl

/-- A derivation is answered by its session key, or by a failure and no output. -/
theorem ofReport_deriveReport (verbosity : Nat) (material : KeyMaterial) :
    (∃ session messages, material.sessionKey.outcome = .ok session ∧
      Answer.ofReport verbosity (deriveReport material) =
        ⟨0, deriveOutput (KeyPath.choose material.etype material.length) session, messages⟩) ∨
    ∃ fault messages, material.sessionKey.outcome = .error fault ∧
      Answer.ofReport verbosity (deriveReport material) = ⟨1, "", messages⟩ := by
  have houtcome := outcome_deriveReport material
  rw [Answer.ofReport]
  cases hsession : material.sessionKey.outcome with
  | ok session =>
      rw [hsession] at houtcome
      rw [houtcome]
      exact .inl ⟨session, _, rfl, rfl⟩
  | error fault =>
      rw [hsession] at houtcome
      rw [houtcome]
      exact .inr ⟨fault, _, rfl, rfl⟩

/-- The answer to two texts: the session key of the key block that they write, if they write one and
it has one, and a failure without output otherwise. -/
theorem answerOn_deriveWords_cases (system : System) (etype : String) {key : String}
    (hkey : key.toList.head? ≠ some '-') (environment : Environment) (store : Store) :
    (∃ material session messages, WritesKey etype key material ∧
      material.sessionKey.outcome = .ok session ∧
      (answerOn system (deriveWords etype key) environment store).1 =
        ⟨0, deriveOutput (KeyPath.choose material.etype material.length) session, messages⟩) ∨
    (∀ material session, WritesKey etype key material →
      material.sessionKey.outcome ≠ .ok session) ∧
      ∃ messages,
        (answerOn system (deriveWords etype key) environment store).1 = ⟨1, "", messages⟩ := by
  rw [answerOn]
  rcases parse_deriveWords_cases hkey with
    ⟨material, hwrites, hwords⟩ | ⟨hnone, argument, fault, hwords⟩
  · rw [hwords]
    rcases ofReport_deriveReport 0 material with
      ⟨session, messages, hsession, hanswer⟩ | ⟨fault, messages, hfault, hanswer⟩
    · exact .inl ⟨material, session, messages, hwrites, hsession, hanswer⟩
    · refine .inr ⟨fun other session hother hsession ↦ ?_, messages, hanswer⟩
      rw [hother.unique hwrites] at hsession
      cases hfault.symm.trans hsession
  · rw [hwords]
    exact .inr ⟨fun material _ hwrites ↦ absurd ⟨material, hwrites⟩ hnone, _, rfl⟩

/-- The paths of key blocks with their texts. -/
def pathTexts : List (KeyPath × String) :=
  [(.copy, "copy"), (.unweave, "unweave+kdf"), (.deriveDirect, "kdf"),
    (.reject .deprecated, "deprecated"), (.reject .unsupported, "unsupported"),
    (.reject .keyTooShort, "key too short")]

theorem mem_pathTexts_iff {path : KeyPath} {text : String} :
    (path, text) ∈ pathTexts ↔ text = path.text := by
  cases path with
  | copy | unweave | deriveDirect => simp [pathTexts, KeyPath.text]
  | reject reason => cases reason <;> simp [pathTexts, KeyPath.text]

/-- The command derives from a key block exactly if the two texts write it: a numeral of 32 bits,
and digits in pairs.  A text that passes its check is read afterwards, and no command line at all
breaks the program off in between.  The command succeeds exactly if the key block has a session key,
puts out its notation behind the text of the path, and puts out nothing otherwise. -/
theorem derive_answer (system : System) (etype key : String) (hkey : key.toList.head? ≠ some '-')
    (environment : Environment) (store : Store) :
    (∀ invocation, Invocation.parse (deriveWords etype key) = .ok (some invocation) ↔
      ∃ material, invocation = ⟨.derive material, 0⟩ ∧ WritesKey etype key material) ∧
    ((∃ material, WritesKey etype key material) ↔
      (∃ value, Decimal.Writes etype.toList value ∧ -2 ^ 31 ≤ value ∧ value < 2 ^ 31) ∧
        key.length % 2 = 0 ∧ ∀ c ∈ key.toList, Hex.IsDigit c) ∧
    (∀ number octets, etype = Decimal.ofInt number.toInt →
      key.toList.map Char.toLower = (Hex.encode octets).toList →
      WritesKey etype key ⟨number, octets⟩) ∧
    (∀ uses, checkDeriveUses uses = .ok () → ∃ material,
      Command.ofDeriveUses? uses = some (.derive material)) ∧
    (∀ words, Invocation.parse words ≠ .ok none) ∧
    ((answerOn system (deriveWords etype key) environment store).1.exitCode = 0 ↔
      ∃ material session, WritesKey etype key material ∧
        material.sessionKey.outcome = .ok session) ∧
    (∀ material session, WritesKey etype key material →
      material.sessionKey.outcome = .ok session →
      ∃ path text, (KeyPath.choose material.etype material.length, path) ∈ pathTexts ∧
        (answerOn system (deriveWords etype key) environment store).1.output =
          "path:" ++ path ++ "\nrxkad:" ++ text ++ "\n" ∧
        Hex.decode text = .ok session.octets) ∧
    ((answerOn system (deriveWords etype key) environment store).1.exitCode ≠ 0 →
      (answerOn system (deriveWords etype key) environment store).1.exitCode = 1 ∧
        (answerOn system (deriveWords etype key) environment store).1.output = "") := by
  refine ⟨fun _ ↦ parse_deriveWords_eq_ok_iff hkey, exists_writesKey_iff, ?readBack, ?checked,
    ?parsed, ?_⟩
  case readBack =>
    rintro number octets rfl hoctets
    exact writesKey_ofInt hoctets
  case checked => exact fun uses hcheck ↦ exists_derive_of_checkDeriveUses hcheck
  case parsed =>
    intro words hnone
    exact absurd (Invocation.isSome_of_parse hnone) (by simp)
  rcases answerOn_deriveWords_cases system etype hkey environment store with
    ⟨material, session, messages, hwrites, hsession, hanswer⟩ | ⟨hnone, messages, hanswer⟩
  · rw [hanswer]
    refine ⟨iff_of_true rfl ⟨material, session, hwrites, hsession⟩, ?_, fun h ↦ absurd rfl h⟩
    intro other found hother hfound
    cases hother.unique hwrites
    cases hfound.symm.trans hsession
    exact ⟨_, Hex.encode session.octets, mem_pathTexts_iff.mpr rfl, rfl, Hex.decode_encode _⟩
  · rw [hanswer]
    refine ⟨iff_of_false Nat.one_ne_zero ?_, ?_, fun _ ↦ ⟨rfl, rfl⟩⟩
    · rintro ⟨material, session, hwrites, hsession⟩
      exact hnone material session hwrites hsession
    · intro material session hwrites hsession
      exact absurd hsession (hnone material session hwrites)

/-- Two texts, the key block that they write, and the lines that answer them. -/
structure AnsweredTexts where
  etype : String
  key : String
  material : KeyMaterial
  lines : String

/-- A key for each path to a session key, written with a sign, in letters of both cases, and with
zeros in front of the number. -/
def answeredTexts : List AnsweredTexts :=
  [⟨"+1", "01020407080B0d0E", ⟨1, [1, 2, 4, 7, 8, 11, 13, 14]⟩,
    "path:copy\nrxkad:01020407080b0d0e\n"⟩,
  ⟨"16", "0102030405060708090a0b0c0d0e0f101112131415161718",
    ⟨16, [1, 2, 3, 4, 5, 6, 7, 8, 9, 10, 11, 12, 13, 14, 15, 16, 17, 18, 19, 20, 21, 22, 23, 24]⟩,
    "path:unweave+kdf\nrxkad:2f4c10bcae0123a1\n"⟩,
  ⟨"0017", "0102030405060708090a0B0c0D0e0F10",
    ⟨17, [1, 2, 3, 4, 5, 6, 7, 8, 9, 10, 11, 12, 13, 14, 15, 16]⟩,
    "path:kdf\nrxkad:805d9dba5d08c28c\n"⟩]

theorem derive_answer_of_answeredTexts :
    answeredTexts.Forall fun texts ↦ WritesKey texts.etype texts.key texts.material ∧
      (answerOn .plain (deriveWords texts.etype texts.key) ⟨none, 0⟩ ⟨[], []⟩).1.exitCode = 0 ∧
      (answerOn .plain (deriveWords texts.etype texts.key) ⟨none, 0⟩ ⟨[], []⟩).1.output =
        texts.lines := by
  have hkeys : ∀ texts ∈ answeredTexts, texts.key.toList.head? ≠ some '-' := by decide
  have hparsed : ∀ texts ∈ answeredTexts, Invocation.parse (deriveWords texts.etype texts.key) =
      .ok (some ⟨.derive texts.material, 0⟩) := by decide
  have hlines : ∀ texts ∈ answeredTexts, texts.lines ≠ "" ∧
      (answerOn .plain (deriveWords texts.etype texts.key) ⟨none, 0⟩ ⟨[], []⟩).1.output =
        texts.lines := by decide +kernel
  rw [List.forall_iff_forall_mem]
  intro texts htexts
  obtain ⟨hparse, -, -, -, -, -, -, hfailed⟩ := derive_answer .plain texts.etype texts.key
    (hkeys texts htexts) ⟨none, 0⟩ ⟨[], []⟩
  obtain ⟨material, hmaterial, hwrites⟩ := (hparse _).mp (hparsed texts htexts)
  cases hmaterial
  obtain ⟨hsome, houtput⟩ := hlines texts htexts
  refine ⟨hwrites, ?_, houtput⟩
  -- an answer with output is no failure
  by_contra hcode
  exact hsome (houtput.symm.trans (hfailed hcode).2)

end AfsToken.CommandLine
