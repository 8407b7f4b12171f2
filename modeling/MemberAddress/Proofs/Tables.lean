import MemberAddress.Config
import Mathlib.Tactic

/-!
# Tables

A configuration is read from a table of tables by looking up texts.

* `Entries.find?_put`, `Entries.find?_without`, `Entries.find?_modify` say what is found in a table
  after one of its keys was set, taken out or given another value;
* `Entries.get_withoutNull`: without a key whose value is null a table has the same values under all
  texts;
* `Entries.nested_modify` says the same of a table inside a table;
* `Section` are the tables inside the table of a configuration.
-/

namespace MemberAddress

namespace Value

variable {k v : Value} {t : Text}

/-! ### Keys that are texts -/

theorem sameKey_text : k.sameKey (.text t) = true ↔ k = .text t := by
  cases k <;> simp [sameKey, toInt?]

theorem text_sameKey : (Value.text t).sameKey k = true ↔ k = .text t := by
  cases k with
  | text s => simpa [sameKey] using eq_comm
  | _ => simp [sameKey, toInt?]

/-! ### Nulls and containers -/

/-- Whether a value is null. -/
def isNull : Value → Bool
  | .null => true
  | _ => false

theorem isNull_iff : v.isNull = true ↔ v = .null := by
  cases v <;> simp [isNull]

/-- A table with its entries changed; other values stay as they are. -/
def onTable (f : Entries → Entries) : Value → Value
  | .table entries => .table (f entries)
  | .knot mark v => .knot mark (onTable f v)
  | v => v

/-- A list with its items changed; other values stay as they are. -/
def onList (f : List Value → List Value) : Value → Value
  | .list items => .list (f items)
  | .knot mark v => .knot mark (onList f v)
  | v => v

theorem content_onTable (f : Entries → Entries) : (v.onTable f).content = v.content.onTable f := by
  induction v using content.induct with
  | case1 mark v ih => simpa only [onTable, content] using ih
  | case2 v hv => cases v <;> simp_all [onTable, content]

theorem content_onList (f : List Value → List Value) : (v.onList f).content = v.content.onList f := by
  induction v using content.induct with
  | case1 mark v ih => simpa only [onList, content] using ih
  | case2 v hv => cases v <;> simp_all [onList, content]

theorem content_ne_knot {mark : Nat} {w : Value} : v.content ≠ .knot mark w := by
  induction v using content.induct with
  | case1 _ v ih => simpa only [content] using ih
  | case2 v hv =>
    cases v with
    | knot mark v => exact absurd rfl (hv mark v)
    | _ => simp [content]

end Value

/-! ### Looking up -/

namespace Entries

variable {entries : Entries} {key v : Value} {t : Text}

theorem find?_put_of_ne (h : key ≠ .text t) :
    find? (.text t) (put key v entries) = find? (.text t) entries := by
  induction entries with
  | nil => simp [put, find?, Value.sameKey_text, h]
  | cons e rest ih =>
    by_cases hk : e.1.sameKey key
    · have he : e.1 ≠ .text t := fun he => h (Value.text_sameKey.1 (he ▸ hk))
      simp [put, hk, find?, Value.sameKey_text, he]
    · simp [put, hk, find?, ih]

theorem find?_put_text : find? (.text t) (put (.text t) v entries) = some v :=
  find?_put_self (Value.sameKey_text.2 rfl) v entries

/-- A table without a key. -/
def without (key : Value) (entries : Entries) : Entries :=
  entries.filter fun e => !e.1.sameKey key

theorem find?_without_of_ne (h : key ≠ .text t) :
    find? (.text t) (entries.without key) = find? (.text t) entries := by
  induction entries with
  | nil => rfl
  | cons e rest ih =>
    rw [without] at ih ⊢
    by_cases hk : e.1.sameKey key
    · have he : e.1 ≠ .text t := fun he => h (Value.text_sameKey.1 (he ▸ hk))
      simp [hk, find?, Value.sameKey_text, he, ih]
    · simp [hk, find?, ih]

theorem find?_without_text : find? (.text t) (entries.without (.text t)) = none := by
  induction entries with
  | nil => rfl
  | cons e rest ih =>
    rw [without] at ih ⊢
    by_cases hk : e.1.sameKey (.text t)
    · simp [hk, ih]
    · simp [hk, find?, ih]

/-- What is found under a key is the value of an entry that has the key. -/
theorem exists_mem_of_find? (h : find? key entries = some v) :
    ∃ e ∈ entries, e.1.sameKey key = true ∧ e.2 = v := by
  induction entries with
  | nil => cases h
  | cons e rest ih =>
    by_cases hk : e.1.sameKey key
    · simp only [find?, hk, if_true, Option.some.injEq] at h
      exact ⟨e, List.mem_cons_self, hk, h⟩
    · simp only [find?, hk, Bool.false_eq_true, if_false] at h
      obtain ⟨e', he', hkey, hv⟩ := ih h
      exact ⟨e', List.mem_cons_of_mem _ he', hkey, hv⟩

/-! ### Keys whose value is null -/

/-- Whether a key has no value but null. -/
def isNullAt (key : Value) (entries : Entries) : Bool :=
  entries.all fun e => !e.1.sameKey key || e.2.isNull

/-- A table without a key whose value is null; a key with another value stays. -/
def withoutNull (key : Value) (entries : Entries) : Entries :=
  if entries.isNullAt key then entries.without key else entries

theorem find?_of_isNullAt (h : entries.isNullAt key = true) :
    find? key entries = none ∨ find? key entries = some .null := by
  cases hf : find? key entries with
  | none => exact .inl rfl
  | some v =>
    obtain ⟨e, he, hk, rfl⟩ := exists_mem_of_find? hf
    have hn := List.all_eq_true.1 h e he
    rw [hk, Bool.not_true, Bool.false_or, Value.isNull_iff] at hn
    exact .inr (congrArg some hn)

theorem find?_withoutNull_of_ne (h : key ≠ .text t) :
    find? (.text t) (entries.withoutNull key) = find? (.text t) entries := by
  unfold withoutNull
  split
  · exact find?_without_of_ne h
  · rfl

/-- Asked for the value of a text, a table says the same with a null and without it. -/
theorem get_withoutNull (k : String) : (entries.withoutNull key).get k = entries.get k := by
  by_cases h : key = .text k.toList
  · subst h
    unfold withoutNull
    split
    · next hn =>
      rcases find?_of_isNullAt hn with hf | hf
      · rw [get, get, find?_without_text, hf]
      · rw [get, get, find?_without_text, hf]
        rfl
    · rfl
  · rw [get, get, find?_withoutNull_of_ne h]

/-! ### Changing one value -/

/-- A table with the value of a key changed. -/
def modify (key : Value) (f : Value → Value) (entries : Entries) : Entries :=
  entries.map fun e => if e.1.sameKey key then (e.1, f e.2) else e

theorem find?_modify_text {f : Value → Value} :
    find? (.text t) (entries.modify (.text t) f) = (find? (.text t) entries).map f := by
  induction entries with
  | nil => rfl
  | cons e rest ih =>
    rw [modify] at ih ⊢
    by_cases hk : e.1.sameKey (.text t)
    · simp [hk, find?]
    · simp [hk, find?, ih]

theorem find?_modify_of_ne {f : Value → Value} (h : key ≠ .text t) :
    find? (.text t) (entries.modify key f) = find? (.text t) entries := by
  induction entries with
  | nil => rfl
  | cons e rest ih =>
    rw [modify] at ih ⊢
    by_cases hk : e.1.sameKey key
    · have he : e.1 ≠ .text t := fun he => h (Value.text_sameKey.1 (he ▸ hk))
      simp [hk, find?, Value.sameKey_text, he, ih]
    · simp [hk, find?, ih]

theorem get_modify_text {f : Value → Value} {k : String} (hf : f .null = .null) :
    (entries.modify (.text k.toList) f).get k = f (entries.get k) := by
  rw [get, get, find?_modify_text]
  cases find? (.text k.toList) entries with
  | none => exact hf.symm
  | some v => rfl

theorem find?_modify_other {f : Value → Value} {k key : String} (h : key ≠ k) :
    find? (.text k.toList) (entries.modify (.text key.toList) f) = find? (.text k.toList) entries :=
  find?_modify_of_ne fun ht => h (String.toList_inj.1 (Value.text.inj ht))

theorem get_modify_other {f : Value → Value} {k key : String} (h : key ≠ k) :
    (entries.modify (.text key.toList) f).get k = entries.get k := by
  rw [get, get, find?_modify_other h]

/-! ### Tables of literals -/

/-- A table whose keys are texts. -/
def ofTexts (entries : List (String × Value)) : Entries :=
  entries.map fun e => (.text e.1.toList, e.2)

theorem find?_ofTexts_cons (k key : String) (v : Value) (rest : List (String × Value)) :
    find? (.text k.toList) (ofTexts ((key, v) :: rest)) =
      if key = k then some v else find? (.text k.toList) (ofTexts rest) := by
  unfold ofTexts
  by_cases h : key = k <;> simp [find?, Value.sameKey_text, String.toList_inj, h]

@[simp] theorem get_ofTexts_nil (k : String) : (ofTexts []).get k = .null := rfl

@[simp] theorem get_ofTexts_cons (k key : String) (v : Value) (rest : List (String × Value)) :
    (ofTexts ((key, v) :: rest)).get k = if key = k then v else (ofTexts rest).get k := by
  rw [get, get, find?_ofTexts_cons]
  split <;> rfl

theorem get_ofTexts_singleton_of_ne {k key : String} (h : key ≠ k) (v : Value) :
    (ofTexts [(key, v)]).get k = .null := by
  rw [get_ofTexts_cons, if_neg h, get_ofTexts_nil]

theorem modify_ofTexts_singleton {f : Value → Value} (key : String) (v : Value) :
    (ofTexts [(key, v)]).modify (.text key.toList) f = ofTexts [(key, f v)] := by
  unfold ofTexts modify
  simp [Value.sameKey_text]

/-! ### Tables inside tables -/

variable {inner : Entries} {f : Fault}

/-- The table under a key, empty if there is none. -/
def section? (entries : Entries) (key : String) : Entries :=
  (entries.nested key).toOption.getD []

theorem nested_ofTexts (key : String) (inner : Entries) :
    (ofTexts [(key, .table inner)]).nested key = .ok inner := by
  rw [nested, get_ofTexts_cons, if_pos rfl]
  rfl

theorem section?_of_nested {key : String} (h : entries.nested key = .ok inner) :
    entries.section? key = inner := by
  rw [section?, h]
  rfl

theorem errorClass?_of_nested {key : String} (h : entries.nested key = .error f) :
    f.errorClass? = some .configuration := by
  unfold nested at h
  split at h
  · cases h
  · cases h
  · cases h
    rfl

/-- A change of the table under a key changes what is read under the key, if it leaves the empty
table as it is. -/
theorem nested_modify {g : Entries → Entries} {key : String} (hg : g [] = []) :
    (entries.modify (.text key.toList) (Value.onTable g)).nested key = (entries.nested key).map g := by
  rw [nested, nested, get_modify_text rfl, Value.content_onTable]
  cases hc : (entries.get key).content with
  | null => exact congrArg Except.ok hg.symm
  | knot mark v => exact absurd hc Value.content_ne_knot
  | _ => rfl

theorem nested_congr {entries' : Entries} {key : String} (h : entries.get key = entries'.get key) :
    entries.nested key = entries'.nested key := by
  rw [nested, nested, h]

theorem nested_modify_other {f : Value → Value} {k key : String} (h : key ≠ k) :
    (entries.modify (.text key.toList) f).nested k = entries.nested k :=
  nested_congr (get_modify_other h)

end Entries

/-! ### Sections of a configuration -/

/-- The tables in which a configuration is looked up. -/
inductive Section
  | root
  | properties
  | network
  | interfaces
  | join
  | tcpIp
  deriving DecidableEq

/-- The keys under which a section stands. -/
def Section.path : Section → List String
  | .root => []
  | .properties => ["properties"]
  | .network => ["network"]
  | .interfaces => ["network", "interfaces"]
  | .join => ["network", "join"]
  | .tcpIp => ["network", "join", "tcp_ip"]

namespace Entries

/-- The table of a section, empty if there is none. -/
def sectionAt (entries : Entries) (s : Section) : Entries := s.path.foldl section? entries

/-- A table with the table under some keys changed. -/
def modifyAt : List String → (Entries → Entries) → Entries → Entries
  | [], g => g
  | key :: path, g => modify (.text key.toList) (Value.onTable (modifyAt path g))

end Entries

end MemberAddress
