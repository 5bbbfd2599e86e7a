import SchemaOutline.Document
import SchemaOutline.Proofs.Json.Limits
import SchemaOutline.Proofs.Json.Reading
import SchemaOutline.Proofs.Text.Utf8

/-!
# What loading a document comes to

Loading a document has two regular ends: the object in the file, or a failure that names the file
and what is wrong with it. `load_regular_iff` says which files it does not bring to either of them:
those whose path has a zero character in it, those whose bytes are not UTF-8, and those whose text
the reader gives up. A single byte that begins no character is enough (`load_strayByte`).
-/

set_option autoImplicit false

namespace SchemaOutline.Document

/-- The text with the given characters, once line ends are line feeds. -/
def textWith (cs : List Char) : String := String.ofList (Text.withLineFeeds cs)

/-- Loading ends with an object that names no member twice, or with a failure that names the
file. -/
def EndsRegularly (result : Except Failure Members) : Prop :=
  (∃ members, result = .ok members ∧ (Json.obj members).NoDuplicates) ∨
    ∃ fault, result = .error (.noDocument fault)

variable {view : FileView} {path : Path} {bytes : List UInt8} {cs : List Char} {text : String}

theorem textOf_eq_ok_iff :
    textOf bytes = .ok text ↔
      ∃ cs, bytes = cs.flatMap String.utf8EncodeChar ∧ textWith cs = text := by
  unfold textOf
  cases hDecode : Text.Utf8.decode bytes with
  | error fault =>
    simp only [reduceCtorEq, false_iff, not_exists]
    rintro cs ⟨hBytes, -⟩
    rw [Text.Utf8.decode_eq_ok_iff.mpr hBytes] at hDecode
    cases hDecode
  | ok cs =>
    have hBytes := Text.Utf8.decode_eq_ok_iff.mp hDecode
    constructor
    · intro h
      exact ⟨cs, hBytes, Except.ok.inj h⟩
    · rintro ⟨others, hOthers, rfl⟩
      rw [Text.Utf8.decode_eq_ok_iff.mpr hOthers] at hDecode
      cases hDecode
      rfl

theorem exists_notText_of_textOf {failure : Failure} (h : textOf bytes = .error failure) :
    ∃ fault, failure = .notText fault := by
  unfold textOf at h
  split at h <;> cases h
  exact ⟨_, rfl⟩

theorem endsRegularly_ofText_iff :
    EndsRegularly (ofText path text) ↔ ¬ Json.GivenUp nestingLimit text := by
  unfold ofText Json.GivenUp
  cases hRead : Json.read nestingLimit text with
  | ok v =>
    have hNames := Json.noDuplicates_of_read hRead
    cases v with
    | obj members => simp [EndsRegularly, hNames]
    | _ => simp [EndsRegularly]
  | error fault => cases fault <;> simp [EndsRegularly]

/-- Loading ends regularly unless the path holds a zero character, the bytes are not UTF-8, or the
reader gives the text up. -/
theorem load_regular_iff (view : FileView) (path : Path) :
    EndsRegularly (load view path) ↔
      path.holdsZero = false ∧ ∀ bytes, view.read path = .ok bytes →
        ∃ cs, bytes = cs.flatMap String.utf8EncodeChar ∧
          ¬ Json.GivenUp nestingLimit (textWith cs) := by
  unfold load
  cases hZero : path.holdsZero with
  | true => simp [EndsRegularly]
  | false =>
    cases hRead : view.read path with
    | error cause => simp [EndsRegularly]
    | ok bytes =>
      simp only [Bool.false_eq_true, if_false, true_and, Except.ok.injEq, forall_eq']
      cases hText : textOf bytes with
      | error failure =>
        obtain ⟨fault, rfl⟩ := exists_notText_of_textOf hText
        constructor
        · rintro (⟨_, h, -⟩ | ⟨_, h⟩) <;> cases h
        · rintro ⟨cs, hBytes, -⟩
          rw [textOf_eq_ok_iff.mpr ⟨cs, hBytes, rfl⟩] at hText
          cases hText
      | ok text =>
        have hSame (cs : List Char) (hBytes : bytes = cs.flatMap String.utf8EncodeChar) :
            textWith cs = text := by
          rw [textOf_eq_ok_iff.mpr ⟨cs, hBytes, rfl⟩] at hText
          exact Except.ok.inj hText
        obtain ⟨cs, hBytes, -⟩ := textOf_eq_ok_iff.mp hText
        constructor
        · intro h
          exact ⟨cs, hBytes, hSame cs hBytes ▸ endsRegularly_ofText_iff.mp h⟩
        · rintro ⟨others, hOthers, hKept⟩
          exact endsRegularly_ofText_iff.mpr (hSame others hOthers ▸ hKept)

/-- A text file with few brackets and short numbers is loaded or refused by its name, whatever else
is in it. -/
theorem load_regular_of_modest (hZero : path.holdsZero = false)
    (hRead : view.read path = .ok (cs.flatMap String.utf8EncodeChar))
    (hNesting : (textWith cs).toList.countP Json.Reader.isOpening ≤ nestingLimit)
    (hDigits : ∀ run, run <:+: (textWith cs).toList → (∀ c ∈ run, Json.Reader.isDigit c = true) →
      run.length ≤ Text.digitLimit) : EndsRegularly (load view path) := by
  refine (load_regular_iff view path).mpr ⟨hZero, fun bytes hBytes => ⟨cs, ?_, ?_⟩⟩
  · rw [hRead] at hBytes
    exact (Except.ok.inj hBytes).symm
  · exact Json.not_givenUp hNesting hDigits

/-- A file with one byte, which begins no character. -/
def strayByte : Files := ⟨[(["s.json"], .file [0xff])]⟩

/-- Loading does not always end regularly. -/
theorem load_strayByte : ¬ EndsRegularly (load strayByte.view ⟨"", ["s.json"]⟩) := by
  have hLoad : load strayByte.view ⟨"", ["s.json"]⟩ =
      .error (.notText ⟨0, 1, 0xff, .invalidStart⟩) := by
    rfl
  rw [hLoad]
  rintro (⟨_, h, -⟩ | ⟨_, h⟩) <;> cases h

end SchemaOutline.Document
