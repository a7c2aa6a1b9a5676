import Criteria.File
import Criteria.Proofs.Registration

/-!
# What is read from files

A file gives a registry or a suite exactly when its bytes are the UTF-8 form of a text and the text
is a definition file or a suite in JSON. Otherwise there is one fault: that of the system, if it
gives no bytes; that the bytes are no text; or else that of the text. What the readers do with a
text is not repeated here.
-/

namespace Criteria

/-! ## Texts -/

/-- Bytes are read as a text exactly when they are the UTF-8 form of the text. -/
theorem fromUTF8?_eq_some_iff {contents : ByteArray} {text : String} :
    String.fromUTF8? contents = some text ↔ contents = text.toUTF8 := by
  constructor
  · intro h
    unfold String.fromUTF8? at h
    split at h
    · next hvalid =>
      obtain rfl := Option.some.inj h
      rfl
    · contradiction
  · rintro rfl
    unfold String.fromUTF8?
    rw [String.toUTF8_eq_toByteArray, dif_pos text.isValidUTF8]
    rfl

/-- Why no text can be read from a file: the system does not give its bytes, or these are not the
UTF-8 form of a text. -/
inductive FileState.Unreadable : FileState → Fault → Prop where
  | absent {fault : FileFault} : Unreadable (.error fault) (.file fault)
  | notText {contents : ByteArray} (h : ∀ text : String, contents ≠ text.toUTF8) :
    Unreadable (.ok contents) (.file .notText)

namespace FileState

variable {file : FileState} {text : String} {fault : Fault}

/-- A text is read from a file exactly when the file is one of that text. -/
theorem read_eq_ok_iff : file.read = .ok text ↔ file = ofText text := by
  cases file with
  | error fault => simp [read, ofText]
  | ok contents =>
    rw [ofText, Except.ok.injEq, ← fromUTF8?_eq_some_iff, read]
    cases String.fromUTF8? contents <;> simp

/-- Reading a file fails exactly when it is unreadable. -/
theorem read_eq_error_iff : file.read = .error fault ↔ file.Unreadable fault := by
  constructor
  · intro h
    cases file with
    | error cause =>
      obtain rfl := Except.error.inj h
      exact .absent
    | ok contents =>
      rw [read] at h
      split at h
      · contradiction
      · next hnone =>
        obtain rfl := Except.error.inj h
        refine .notText fun text htext => ?_
        rw [fromUTF8?_eq_some_iff.mpr htext] at hnone
        contradiction
  · intro h
    cases h with
    | absent => rfl
    | @notText contents hnone =>
      rw [read]
      split
      · next text htext => exact absurd (fromUTF8?_eq_some_iff.mp htext) (hnone text)
      · rfl

end FileState

/-! ## Definition files -/

/-- A registry stands in a file: the file holds a text, and the registry is the one into which the
definitions of the text are put in order. -/
def Registry.InFile (registry : Registry) (file : FileState) : Prop :=
  ∃ text definitions, file = .ofText text ∧ Definition.parse text = .ok definitions ∧
    registry = definitions.foldl Registry.insert .empty

/-- Why a file gives no registry: it is unreadable, or it holds a text that is malformed. -/
inductive Registry.Unloadable (file : FileState) : Fault → Prop where
  | unreadable {fault : Fault} (h : file.Unreadable fault) : Unloadable file fault
  | malformed {text : String} {fault : Fault} (hfile : file = .ofText text)
    (h : Definition.parse text = .error fault) : Unloadable file fault

namespace Registry

variable {file : FileState} {registry : Registry} {fault : Fault}

/-- A registry that stands in a file is that of a text. -/
theorem InFile.exists_text (h : registry.InFile file) :
    ∃ text, (ofText text).outcome = .ok registry := by
  obtain ⟨text, definitions, -, hparse, hregistry⟩ := h
  exact ⟨text, ofText_eq_ok_iff.mpr ⟨definitions, hparse, hregistry⟩⟩

/-- A file gives the registry of its text. -/
theorem outcome_ofFile_eq_ok_iff : (ofFile file).outcome = .ok registry ↔ registry.InFile file := by
  simp only [ofFile, Definition.loadFile, Traced.outcome_bind_eq_ok_iff, Definition.outcome_load,
    outcome_registerAll, Except.ok.injEq]
  constructor
  · rintro ⟨definitions, ⟨text, hread, hparse⟩, rfl⟩
    exact ⟨text, definitions, FileState.read_eq_ok_iff.mp hread, hparse, rfl⟩
  · rintro ⟨text, definitions, hfile, hparse, rfl⟩
    exact ⟨definitions, ⟨text, FileState.read_eq_ok_iff.mpr hfile, hparse⟩, rfl⟩

/-- A file gives no registry exactly when it is unreadable or malformed. -/
theorem outcome_ofFile_eq_error_iff :
    (ofFile file).outcome = .error fault ↔ Unloadable file fault := by
  simp only [ofFile, Definition.loadFile, Traced.outcome_bind_eq_error_iff,
    Traced.outcome_bind_eq_ok_iff, Definition.outcome_load, outcome_registerAll]
  constructor
  · rintro ((hread | ⟨text, hread, hparse⟩) | ⟨definitions, hload, hregister⟩)
    · exact .unreadable (FileState.read_eq_error_iff.mp hread)
    · exact .malformed (FileState.read_eq_ok_iff.mp hread) hparse
    · contradiction
  · rintro (h | ⟨hfile, hparse⟩)
    · exact .inl (.inl (FileState.read_eq_error_iff.mpr h))
    · exact .inl (.inr ⟨_, FileState.read_eq_ok_iff.mpr hfile, hparse⟩)

end Registry

/-! ## Suite files -/

/-- A suite stands in a file: the file holds a text from which the suite is read as JSON. -/
def TestSuite.InFile (suite : TestSuite) (file : FileState) : Prop :=
  ∃ text, file = .ofText text ∧ TestSuite.codec.decode text = .ok suite

/-- Why a file gives no suite: it is unreadable, or it holds a text that is no suite in JSON. -/
inductive TestSuite.Unloadable (file : FileState) : Fault → Prop where
  | unreadable {fault : Fault} (h : file.Unreadable fault) : Unloadable file fault
  | malformed {text : String} {fault : Json.Fault} (hfile : file = .ofText text)
    (h : TestSuite.codec.decode text = .error fault) : Unloadable file (.serialization fault)

namespace TestSuite

variable {file : FileState} {suite : TestSuite} {fault : Fault}

/-- What comes of reading a suite from a file. -/
theorem ofFile_eq (file : FileState) :
    ofFile file = match file.read with
      | .error fault => .error fault
      | .ok text => (TestSuite.codec.decode text).mapError .serialization := by
  rw [ofFile]
  cases file.read <;> rfl

/-- A file gives the suite in its text. -/
theorem ofFile_eq_ok_iff : ofFile file = .ok suite ↔ suite.InFile file := by
  rw [ofFile_eq]
  constructor
  · intro h
    cases hread : file.read with
    | error fault => rw [hread] at h; contradiction
    | ok text =>
      rw [hread] at h
      cases hdecode : TestSuite.codec.decode text with
      | error fault => simp [hdecode, Except.mapError] at h
      | ok decoded =>
        obtain rfl : decoded = suite := by simpa [hdecode, Except.mapError] using h
        exact ⟨text, FileState.read_eq_ok_iff.mp hread, hdecode⟩
  · rintro ⟨text, hfile, hdecode⟩
    rw [FileState.read_eq_ok_iff.mpr hfile]
    simp [hdecode, Except.mapError]

/-- A file gives no suite exactly when it is unreadable or holds none. -/
theorem ofFile_eq_error_iff : ofFile file = .error fault ↔ Unloadable file fault := by
  rw [ofFile_eq]
  constructor
  · intro h
    cases hread : file.read with
    | error other =>
      rw [hread] at h
      obtain rfl := Except.error.inj h
      exact .unreadable (FileState.read_eq_error_iff.mp hread)
    | ok text =>
      rw [hread] at h
      cases hdecode : TestSuite.codec.decode text with
      | ok decoded => simp [hdecode, Except.mapError] at h
      | error other =>
        obtain rfl : Fault.serialization other = fault := by
          simpa [hdecode, Except.mapError] using h
        exact .malformed (FileState.read_eq_ok_iff.mp hread) hdecode
  · rintro (h | ⟨hfile, hdecode⟩)
    · rw [FileState.read_eq_error_iff.mpr h]
    · rw [FileState.read_eq_ok_iff.mpr hfile]
      simp [hdecode, Except.mapError]

end TestSuite

end Criteria
