import AfsToken.Proofs.Text.Separator
import AfsToken.Proofs.Text.Utf8
import AfsToken.Token.Run

/-!
# Names that are paths

The name of a cache is taken from one place: the command line, or else the environment, if it gives
a text.  A name is a path as it stands, or behind the type of a file, or it is refused with the type
that it has.  Whatever the path is, there is a name for it, and no cache of another type is taken
for a file.
-/

namespace AfsToken.CacheName

open AfsToken.Text

variable {name front back residence : String}

/-! ## The type of a cache -/

theorem splitColon_of_splitsAt (h : SplitsAt ':' name front back) :
    splitColon name = some (front, back) := by
  rw [splitColon, splitsAt_iff_span.mp h]
  simp

theorem splitColon_of_notMem (h : ':' ∉ name.toList) : splitColon name = none := by
  rw [splitColon, span_of_notMem h]

/-- The letters of the type of a file are no separators. -/
theorem notMem_of_isFileType (h : isFileType residence = true) {c : Char}
    (hc : c.toLower ∉ ['f', 'i', 'l', 'e']) : c ∉ residence.toList := by
  intro hmem
  have hsame : residence.toList.map Char.toLower = ['f', 'i', 'l', 'e'] := beq_iff_eq.mp h
  rw [← hsame] at hc
  exact hc (List.mem_map_of_mem hmem)

/-- A name without a colon is a path. -/
theorem path_of_notMem (h : ':' ∉ name.toList) : path name = .ok name := by
  rw [path, splitColon_of_notMem h]

/-- A slash in front of the first colon makes a path of the whole name. -/
theorem path_of_slash (h : SplitsAt ':' name front back) (hslash : '/' ∈ front.toList) :
    path name = .ok name := by
  rw [path, splitColon_of_splitsAt h]
  exact if_pos (List.contains_iff_mem.mpr hslash)

/-- The type of a file is no part of the path. -/
theorem path_of_isFileType (h : SplitsAt ':' name front back) (hfile : isFileType front = true) :
    path name = .ok back := by
  have hslash : '/' ∉ front.toList := notMem_of_isFileType hfile (by decide)
  rw [path, splitColon_of_splitsAt h]
  simp [hslash, hfile]

/-- Any other type is refused. -/
theorem path_of_otherType (h : SplitsAt ':' name front back) (hslash : '/' ∉ front.toList)
    (hother : isFileType front = false) : path name = .error (.cacheType front name) := by
  rw [path, splitColon_of_splitsAt h]
  simp [hslash, hother]

/-- A name is a path, or a file type and a path, or it has another type. -/
theorem path_cases (name : String) :
    (':' ∉ name.toList ∧ path name = .ok name) ∨
    ∃ front back, SplitsAt ':' name front back ∧
      (('/' ∈ front.toList ∧ path name = .ok name) ∨
       (isFileType front = true ∧ path name = .ok back) ∨
       ('/' ∉ front.toList ∧ isFileType front = false ∧
         path name = .error (.cacheType front name))) := by
  by_cases hcolon : ':' ∈ name.toList
  · obtain ⟨front, back, hsplit⟩ := exists_splitsAt_iff.mpr hcolon
    refine .inr ⟨front, back, hsplit, ?_⟩
    by_cases hslash : '/' ∈ front.toList
    · exact .inl ⟨hslash, path_of_slash hsplit hslash⟩
    · cases hfile : isFileType front with
      | true => exact .inr (.inl ⟨rfl, path_of_isFileType hsplit hfile⟩)
      | false => exact .inr (.inr ⟨hslash, rfl, path_of_otherType hsplit hslash hfile⟩)
  · exact .inl ⟨hcolon, path_of_notMem hcolon⟩

/-- Every text is a path behind the type of a file. -/
theorem path_append (file : String) (hfile : isFileType residence = true) :
    path (residence ++ ":" ++ file) = .ok file := by
  have hsplit : SplitsAt ':' (residence ++ ":" ++ file) residence file :=
    ⟨rfl, notMem_of_isFileType hfile (by decide)⟩
  exact path_of_isFileType hsplit hfile

/-- The names of a path: the path itself, if it does not start with a type, and the path behind the
type of a file. -/
theorem path_eq_ok_iff {file : String} :
    path name = .ok file ↔
      (file = name ∧ (':' ∉ name.toList ∨
        ∃ front back, SplitsAt ':' name front back ∧ '/' ∈ front.toList)) ∨
      ∃ residence, isFileType residence = true ∧ name = residence ++ ":" ++ file := by
  constructor
  · intro h
    rcases path_cases name with ⟨hcolon, hpath⟩ | ⟨front, back, hsplit, hcases⟩
    · rw [hpath] at h
      cases h
      exact .inl ⟨rfl, .inl hcolon⟩
    · rcases hcases with ⟨hslash, hpath⟩ | ⟨hfile, hpath⟩ | ⟨-, -, hpath⟩
      · rw [hpath] at h
        cases h
        exact .inl ⟨rfl, .inr ⟨front, back, hsplit, hslash⟩⟩
      · rw [hpath] at h
        cases h
        exact .inr ⟨front, hfile, hsplit.text_eq⟩
      · rw [hpath] at h
        cases h
  · rintro (⟨rfl, hcolon | ⟨front, back, hsplit, hslash⟩⟩ | ⟨residence, hfile, rfl⟩)
    · exact path_of_notMem hcolon
    · exact path_of_slash hsplit hslash
    · exact path_append file hfile

/-- A name that is not that of a path is refused with what stands in front of its first colon. -/
theorem path_ok_or_error (name : String) :
    (∃ file, path name = .ok file) ∨
      ∃ front back, SplitsAt ':' name front back ∧ path name = .error (.cacheType front name) := by
  rcases path_cases name with ⟨-, hpath⟩ | ⟨front, back, hsplit, hcases⟩
  · exact .inl ⟨name, hpath⟩
  · rcases hcases with ⟨-, hpath⟩ | ⟨-, hpath⟩ | ⟨-, -, hpath⟩
    · exact .inl ⟨name, hpath⟩
    · exact .inl ⟨back, hpath⟩
    · exact .inr ⟨front, back, hsplit, hpath⟩

/-! ## The place of a name -/

theorem resolve_some (name : String) (environment : Environment) :
    resolve (some name) environment = path name := rfl

theorem ofEnvironment_encode (name : String) (user : Nat) :
    ofEnvironment ⟨some (Utf8.encode name), user⟩ = some name := Utf8.decode?_encode name

theorem resolve_encode (name : String) (user : Nat) :
    resolve none ⟨some (Utf8.encode name), user⟩ = path name := by
  rw [resolve, ofEnvironment_encode, Option.none_or]

/-- Octets that no text is written as name nothing. -/
theorem resolve_of_forall_ne {octets : Octets} (h : ∀ text, octets ≠ Utf8.encode text)
    (user : Nat) : resolve none ⟨some octets, user⟩ = .ok (defaultPath user) := by
  have hnone : ofEnvironment ⟨some octets, user⟩ = none := Utf8.decode?_eq_none_iff.mpr h
  rw [resolve, hnone, Option.none_or]

theorem resolve_unset (user : Nat) : resolve none ⟨none, user⟩ = .ok (defaultPath user) := rfl

/-- A request for a cache of another type stops on every system, and nothing is read. -/
theorem run_of_path_eq_error {system : System} {environment : Environment} {request : TokenRequest}
    {fault : RequestFault} (hname : request.cacheName = some name ∨
      (request.cacheName = none ∧ environment.cacheName = some (Utf8.encode name)))
    (h : path name = .error fault) (store : Store) :
    system.run environment request store =
      (Report.fail (.failure (.request fault)), store) := by
  have hresolve : resolve request.cacheName environment = .error fault := by
    rcases hname with hname | ⟨hnone, hname⟩
    · rw [hname, resolve_some, h]
    · obtain ⟨_, user⟩ := environment
      cases hname
      rw [hnone, resolve_encode, h]
  apply System.run_of_path_error
  rw [TokenRequest.path, hresolve]
  rfl

/-- The name of the cache to read comes from the command line, or else from the environment, if
there is a text in it.  A name is a path, or the type of a file and a path, or it is refused with
its type, and then nothing is read on any system. -/
theorem resolve_files_only :
    (∀ name environment, resolve (some name) environment = path name) ∧
    (∀ name user, resolve none ⟨some (Utf8.encode name), user⟩ = path name) ∧
    (∀ octets user, (∀ text, octets ≠ Utf8.encode text) →
      resolve none ⟨some octets, user⟩ = .ok (defaultPath user)) ∧
    (∀ user, resolve none ⟨none, user⟩ = .ok (defaultPath user)) ∧
    (∀ name file, path name = .ok file ↔
      (file = name ∧ (':' ∉ name.toList ∨
        ∃ front back, SplitsAt ':' name front back ∧ '/' ∈ front.toList)) ∨
      ∃ residence, Casing.sameAscii residence "FILE" = true ∧ name = residence ++ ":" ++ file) ∧
    (∀ name, (∃ file, path name = .ok file) ∨
      ∃ front back, SplitsAt ':' name front back ∧ path name = .error (.cacheType front name)) ∧
    (∀ file, path ("FILE:" ++ file) = .ok file) ∧
    (∀ name front back, SplitsAt ':' name front back → '/' ∉ front.toList →
      Casing.sameAscii front "FILE" = false →
      path name = .error (.cacheType front name) ∧
      ∀ (system : System) environment request store, request.cacheName = some name ∨
          (request.cacheName = none ∧ environment.cacheName = some (Utf8.encode name)) →
        system.run environment request store =
          (Report.fail (.failure (.request (.cacheType front name))), store)) := by
  refine ⟨resolve_some, resolve_encode, fun _ user h ↦ resolve_of_forall_ne h user, resolve_unset,
    fun _ _ ↦ path_eq_ok_iff, path_ok_or_error, fun file ↦ ?_,
    fun name front back hsplit hslash hother ↦ ?_⟩
  · have hfile : isFileType fileType = true := by decide
    have hname : "FILE:" = fileType ++ ":" := by decide
    rw [hname]
    exact path_append file hfile
  · have hpath := path_of_otherType hsplit hslash hother
    exact ⟨hpath, fun _ _ _ store hname ↦ run_of_path_eq_error hname hpath store⟩

/-- The type of a file in mixed case, in front of what looks like another type, and a name with an
empty type in the environment.  An octet that starts no character is no name. -/
theorem resolve_files_only_of_emptyType :
    let environment : Environment := ⟨some (Utf8.encode ":/tmp/x:y"), 1000⟩
    let request : TokenRequest := ⟨⟨"example.com", "EXAMPLE.COM"⟩, none, .sessionKeyring⟩
    resolve (some "fIlE:KEYRING:x") environment = .ok "KEYRING:x" ∧
      resolve none environment = .error (.cacheType "" ":/tmp/x:y") ∧
      System.plain.run environment request ⟨[], []⟩ =
        (Report.fail (.failure (.request (.cacheType "" ":/tmp/x:y"))), ⟨[], []⟩) ∧
      resolve none ⟨some [0x80], 1000⟩ = .ok "/tmp/krb5cc_1000" := by
  intro environment request
  obtain ⟨hargument, hvariable, hinvalid, -, hok, -, -, hother⟩ := resolve_files_only
  have hsplit : SplitsAt ':' ":/tmp/x:y" "" "/tmp/x:y" := ⟨by decide, by decide⟩
  obtain ⟨herror, hrun⟩ := hother _ _ _ hsplit (by decide) (by decide)
  have hunread : ∀ text, [0x80] ≠ Utf8.encode text := by
    apply Utf8.decode?_eq_none_iff.mp
    simp [Utf8.decode?, Utf8.pieces, Utf8.piece, Utf8.lead]
  refine ⟨?_, ?_, hrun .plain environment request ⟨[], []⟩ (.inr ⟨rfl, rfl⟩), ?_⟩
  · rw [hargument]
    exact (hok _ _).mpr (.inr ⟨"fIlE", by decide, by decide⟩)
  · rw [hvariable, herror]
  · rw [hinvalid _ _ hunread]
    decide +kernel

end AfsToken.CacheName
