import MemberAddress.Config.File
import MemberAddress.Proofs.Loading

/-!
# Faults of a configuration file

Under a path there may be nothing, something that cannot be read, or bytes. Bytes are decoded, the
text is read as a document, and the document's table is loaded. Each step has its own faults, and all
but two kinds of them are faults of a configuration: bytes that are no text, and a number too long to
write where a text is asked for.

* `Config.rootEntries` is the table of a document that is loaded;
* `Config.errorClass?_of_ofText` says what a fault of a text is, `Config.failsAsConfiguration_iff`
  what one of a file is.

Which documents denote a value is left to a reader. What counts of it is whether it finds a value,
and whether what it finds wrong is that the document is malformed. Values may be nested to any
depth, as in `Value.toText`.
-/

namespace MemberAddress

/-- Bytes decode to the text whose encoding they are. -/
theorem fromUTF8?_eq_some_iff {content : ByteArray} {t : String} :
    String.fromUTF8? content = some t ↔ t.toUTF8 = content := by
  unfold String.fromUTF8?
  split
  · next h =>
    rw [Option.some.injEq]
    exact ⟨fun he => he ▸ rfl, fun he => by subst he; rfl⟩
  · next h => exact ⟨nofun, fun he => absurd (he ▸ t.isValidUTF8) h⟩

namespace Config

variable {read : DocumentReader} {t : Text} {v : Value} {entries : Entries} {f : Fault}

/-- The table that is loaded from the value of a document: that under the name of the product if
there is one, else the whole; nothing at all stands for the empty table. -/
def rootEntries (v : Value) : Except Fault Entries :=
  match v.content with
  | .null => .ok []
  | .table entries =>
    if (Entries.find? (.text "hazelcast".toList) entries).isSome then
      Entries.nested entries "hazelcast"
    else .ok entries
  | _ => .error .rootNotMapping

theorem ofDocument_eq (v : Value) : ofDocument v = rootEntries v >>= ofEntries := by
  unfold ofDocument rootEntries
  cases v.content with
  | table entries =>
    by_cases h : (Entries.find? (.text "hazelcast".toList) entries).isSome = true
    · simp only [h, if_true]
      cases Entries.nested entries "hazelcast" <;> rfl
    · simp only [h, Bool.false_eq_true, if_false]
      rfl
  | _ => rfl

theorem errorClass?_of_rootEntries (h : rootEntries v = .error f) :
    f.errorClass? = some .configuration := by
  unfold rootEntries at h
  split at h
  · cases h
  · split at h
    · exact Entries.errorClass?_of_nested h
    · cases h
  · cases h
    rfl

/-- The fault of a text: the document cannot be read, or it cannot be loaded. -/
theorem ofText_error_iff :
    ofText read t = .error f ↔
      (∃ e, read t = .error e ∧ f = documentFault e) ∨
        ∃ v, read t = .ok v ∧ (rootEntries v = .error f ∨
          ∃ entries, rootEntries v = .ok entries ∧ ofEntries entries = .error f) := by
  unfold ofText
  cases read t with
  | error e => simp [eq_comm]
  | ok v => simp [ofDocument_eq, Except.bind_error_iff]

theorem errorClass?_documentFault_iff {e : Yaml.Error} :
    (documentFault e).errorClass? = some .configuration ↔ e = .malformed := by
  cases e <;> simp [documentFault, Fault.errorClass?]

/-- A fault of a text whose document is loaded or malformed. -/
theorem errorClass?_of_ofText (hread : ∀ e, read t = .error e → e = .malformed)
    (h : ofText read t = .error f) : f.errorClass? = some .configuration ∨ f = .overlongNumber := by
  rcases ofText_error_iff.1 h with ⟨e, he, rfl⟩ | ⟨v, hv, hroot | ⟨entries, -, hload⟩⟩
  · exact .inl (errorClass?_documentFault_iff.2 (hread e he))
  · exact .inl (errorClass?_of_rootEntries hroot)
  · exact (stemsFrom_of_ofEntries hload).imp_right And.left

/-- Only a number among the values that are read as texts can be too long. -/
theorem ofText_ne_overlongNumber (hv : read t = .ok v) (hroot : rootEntries v = .ok entries)
    (hshow : ∀ w ∈ shownValues entries, w.isShowable = true) :
    ofText read t ≠ .error .overlongNumber := by
  intro h
  rcases ofText_error_iff.1 h with ⟨e, he, -⟩ | ⟨v', hv', hfault | ⟨entries', hentries, hload⟩⟩
  · rw [hv] at he
    cases he
  · cases errorClass?_of_rootEntries hfault
  · rw [hv] at hv'
    cases hv'
    rw [hroot] at hentries
    cases hentries
    rcases stemsFrom_of_ofEntries hload with hclass | ⟨-, w, hw, hlong⟩
    · cases hclass
    · rw [hshow w hw] at hlong
      cases hlong

/-- Whatever goes wrong with a file is a fault of a configuration. -/
def FailsAsConfiguration (read : DocumentReader) (path : Text) (file : StoredFile) : Prop :=
  ∀ f, ofStored read path file = .error f → f.errorClass? = some .configuration

theorem ofStored_bytes_eq_none (read : DocumentReader) (path : Text) {content : ByteArray}
    (h : String.fromUTF8? content = none) :
    ofStored read path (.bytes content) = .error .undecodable := by
  simp only [ofStored, h]

theorem ofStored_bytes (read : DocumentReader) (path : Text) {content : ByteArray} {t : String}
    (h : String.fromUTF8? content = some t) :
    ofStored read path (.bytes content) = ofText read t.toList := by
  simp only [ofStored, h]

theorem failsAsConfiguration_bytes_iff (read : DocumentReader) (path : Text)
    (content : ByteArray) :
    FailsAsConfiguration read path (.bytes content) ↔
      ∃ t : String, t.toUTF8 = content ∧
        (∀ e, read t.toList = .error e → e = .malformed) ∧
          ofText read t.toList ≠ .error .overlongNumber := by
  constructor
  · intro h
    cases ht : String.fromUTF8? content with
    | none => cases h _ (ofStored_bytes_eq_none read path ht)
    | some t =>
      rw [FailsAsConfiguration, ofStored_bytes read path ht] at h
      refine ⟨t, fromUTF8?_eq_some_iff.1 ht, fun e he => ?_, fun hlong => ?_⟩
      · exact errorClass?_documentFault_iff.1 (h _ (ofText_error_iff.2 (.inl ⟨e, he, rfl⟩)))
      · cases h _ hlong
  · rintro ⟨t, ht, hread, hlong⟩ f hf
    rw [ofStored_bytes read path (fromUTF8?_eq_some_iff.2 ht)] at hf
    rcases errorClass?_of_ofText hread hf with hclass | rfl
    · exact hclass
    · exact absurd hf hlong

/-- Whatever reads the documents, a path under which nothing can be read always fails as a
configuration does. Bytes do so exactly if they are the encoding of a text, whose document is
malformed or denotes a value, and no number too long to write is met while loading; only among the
flags, listed addresses and properties can there be one. -/
theorem failsAsConfiguration_iff (read : DocumentReader) (path : Text) (file : StoredFile) :
    (FailsAsConfiguration read path file ↔
      ∀ content, file = .bytes content →
        ∃ t : String, t.toUTF8 = content ∧
          (∀ e, read t.toList = .error e → e = .malformed) ∧
            ofText read t.toList ≠ .error .overlongNumber) ∧
    ∀ t v entries, read t = .ok v → rootEntries v = .ok entries →
      (∀ w ∈ shownValues entries, w.isShowable = true) →
        ofText read t ≠ .error .overlongNumber := by
  refine ⟨?_, fun t v entries hv hroot hshow => ofText_ne_overlongNumber hv hroot hshow⟩
  cases file with
  | missing =>
    refine ⟨nofun, fun _ f hf => ?_⟩
    cases hf
    rfl
  | unreadable e =>
    refine ⟨nofun, fun _ f hf => ?_⟩
    cases hf
    rfl
  | bytes content =>
    rw [failsAsConfiguration_bytes_iff]
    exact ⟨fun h content' he => StoredFile.bytes.inj he ▸ h, fun h => h content rfl⟩

/-- The same for the usual reader. -/
theorem failsAsConfiguration_iff_yaml :
    (∀ path file, (∀ f, ofFile path file = .error f → f.errorClass? = some .configuration) ↔
      ∀ content, file = .bytes content →
        ∃ t : String, t.toUTF8 = content ∧
          (∀ e, Yaml.read t.toList = .error e → e = .malformed) ∧
            ofYaml t.toList ≠ .error .overlongNumber) ∧
    ∀ t v entries, Yaml.read t = .ok v → rootEntries v = .ok entries →
      (∀ w ∈ shownValues entries, w.isShowable = true) → ofYaml t ≠ .error .overlongNumber :=
  ⟨fun path file => (failsAsConfiguration_iff Yaml.read path file).1,
    (failsAsConfiguration_iff Yaml.read [] .missing).2⟩

/-- A single byte that starts no character is met as what it is. -/
theorem not_failsAsConfiguration_byte :
    ¬ FailsAsConfiguration Yaml.read "m.yaml".toList (.bytes ⟨#[0xff]⟩) := by
  intro h
  have hdecode : String.fromUTF8? ⟨#[0xff]⟩ = none := by decide
  cases h _ (ofStored_bytes_eq_none Yaml.read "m.yaml".toList hdecode)

end Config

end MemberAddress
