import Mathlib.Data.List.Basic
import OpenChoreo.Unicode

/-!
# Go maps keyed by strings, and Go's quoting

A Go `map[string]T` as an association list. A lookup finds the first entry of its key and an
assignment puts the new entry in front of the others, dropping the old entry of the key, so a map
built by assignments alone holds each key once. Iteration follows the list; Go iterates in no fixed
order, so what is proved about a loop over a map is proved for the order of the list without
depending on it. Where two runs of one loop over the same map are compared, each run visits the
map in an order of its own, a `RangeOrder`: Go picks a new one each time a `range` statement
runs.

The `%q` verb of `fmt`, which several error texts and queries use, is `goQuote`: it escapes the
quote, the backslash and every character `strconv.IsPrint` does not count as printable.
-/

namespace OpenChoreo

/-- `map[string]α`. -/
abbrev GoMap (α : Type) : Type := List (String × α)

namespace GoMap

variable {α : Type}

/-- `m[key]` with its presence flag. -/
def get? (m : GoMap α) (key : String) : Option α :=
  (List.find? (fun e => e.1 = key) m).map (·.2)

/-- `m[key] = v`. -/
def set (m : GoMap α) (key : String) (v : α) : GoMap α :=
  (key, v) :: List.filter (fun e => e.1 ≠ key) m

@[simp]
theorem get?_nil (key : String) : get? ([] : GoMap α) key = none := rfl

@[simp]
theorem get?_set_self (m : GoMap α) (key : String) (v : α) : (m.set key v).get? key = some v := by
  simp [get?, set]

/-- An assignment to one key leaves the lookup of every other key as it was. -/
@[simp]
theorem get?_set_ne (m : GoMap α) {key key' : String} (v : α) (h : key' ≠ key) :
    (m.set key v).get? key' = m.get? key' := by
  have hsame : ∀ e : String × α, (!decide (e.1 = key) && decide (e.1 = key')) = decide (e.1 = key') :=
    fun e => by by_cases he : e.1 = key' <;> simp [he, h]
  simp [get?, set, Ne.symm h, hsame]

theorem mem_of_get? {m : GoMap α} {key : String} {v : α} (h : m.get? key = some v) :
    (key, v) ∈ m := by
  obtain ⟨e, he, rfl⟩ := Option.map_eq_some'.1 h
  have hmem := List.mem_of_find?_eq_some he
  have hkey : e.1 = key := by simpa using List.find?_some he
  exact hkey ▸ hmem

/-- A key is found exactly when some entry has it. -/
theorem exists_get?_iff {m : GoMap α} {key : String} :
    (∃ v, m.get? key = some v) ↔ key ∈ m.map (·.1) := by
  constructor
  · rintro ⟨v, hv⟩
    exact List.mem_map.2 ⟨(key, v), mem_of_get? hv, rfl⟩
  · intro hkey
    obtain ⟨e, he, rfl⟩ := List.mem_map.1 hkey
    obtain ⟨x, hx⟩ := Option.isSome_iff_exists.1
      (List.find?_isSome.2 ⟨e, he, by simp⟩ : (m.find? fun x => x.1 = e.1).isSome)
    exact ⟨x.2, by simp [get?, hx]⟩

theorem mem_set {m : GoMap α} {key k : String} {v w : α} :
    (k, w) ∈ m.set key v ↔ (k = key ∧ w = v) ∨ ((k, w) ∈ m ∧ k ≠ key) := by
  simp [set, List.mem_filter]

/-- A map built by assignments holds each key once. -/
theorem nodup_keys_set {m : GoMap α} (h : (m.map (·.1)).Nodup) (key : String) (v : α) :
    ((m.set key v).map (·.1)).Nodup := by
  simp only [set, List.map_cons, List.nodup_cons]
  refine ⟨by simp [List.mem_filter], h.sublist ((List.filter_sublist m).map _)⟩

/-- A map filled by assigning, in the order of a list, a value under the name of each element
answers for a key with the value of the last element of that name, and with what it held before
when no element has that name. -/
theorem get?_foldl_set {β : Type} (name : β → String) (f : β → α) (l : List β) (m : GoMap α)
    (key : String) :
    (l.foldl (fun m b => m.set (name b) (f b)) m).get? key =
      (l.reverse.find? (name · = key)).elim (m.get? key) (some ∘ f) := by
  induction l generalizing m with
  | nil => rfl
  | cons b rest ih =>
    rw [List.foldl_cons, ih, List.reverse_cons, List.find?_append]
    cases rest.reverse.find? (name · = key) with
    | some b' => rfl
    | none =>
      by_cases hb : name b = key
      · subst hb; simp
      · simp [hb, get?_set_ne _ _ (Ne.symm hb)]

theorem mem_keys_set {m : GoMap α} {key k : String} {v : α} :
    k ∈ (m.set key v).map (·.1) ↔ key = k ∨ k ∈ m.map (·.1) := by
  by_cases h : key = k
  · simp [set, h]
  · simp [set, h, Ne.symm h]

/-- The keys of a map filled by assignments: the names assigned, and the keys it held. -/
theorem mem_keys_foldl_set {β : Type} (name : β → String) (f : β → α) (l : List β) (m : GoMap α)
    (k : String) :
    k ∈ (l.foldl (fun m b => m.set (name b) (f b)) m).map (·.1) ↔
      (∃ b ∈ l, name b = k) ∨ k ∈ m.map (·.1) := by
  induction l generalizing m with
  | nil => simp
  | cons b rest ih =>
    rw [List.foldl_cons, ih, mem_keys_set]
    simp only [List.mem_cons, or_and_right, exists_or, exists_eq_left, or_assoc]
    exact or_left_comm

/-- A map filled by assignments holds each key once. -/
theorem keys_nodup_foldl_set {β : Type} (name : β → String) (f : β → α) (l : List β)
    {m : GoMap α} (hm : (m.map (·.1)).Nodup) :
    ((l.foldl (fun m b => m.set (name b) (f b)) m).map (·.1)).Nodup := by
  induction l generalizing m with
  | nil => exact hm
  | cons b rest ih => exact ih (nodup_keys_set hm _ _)

end GoMap

/-! ## Range orders -/

/-- The order in which one run of a `range` statement visits the entries of a map. -/
structure RangeOrder where
  arrange : {α : Type} → GoMap α → GoMap α
  perm : ∀ {α : Type} (m : GoMap α), (arrange m).Perm m

/-- The order of the list. -/
def RangeOrder.listed : RangeOrder := ⟨fun m => m, fun m => List.Perm.refl m⟩

/-- The reverse of the order of the list. -/
def RangeOrder.reversed : RangeOrder := ⟨fun m => m.reverse, fun m => List.reverse_perm m⟩

/-- What a search of a map reports of the entry it finds does not depend on the order the map is
ranged in, when every entry that passes the test reports the same. -/
theorem RangeOrder.map_find?_arrange {α β : Type} {p : String × α → Bool} {m : GoMap α}
    {f : String × α → β} (hsame : ∀ e ∈ m, ∀ e' ∈ m, p e = true → p e' = true → f e = f e')
    (o₁ o₂ : RangeOrder) :
    ((o₁.arrange m).find? p).map f = ((o₂.arrange m).find? p).map f := by
  have hmem (o : RangeOrder) {e : String × α} : e ∈ o.arrange m ↔ e ∈ m := (o.perm m).mem_iff
  rcases h₁ : (o₁.arrange m).find? p with _ | e <;>
    rcases h₂ : (o₂.arrange m).find? p with _ | e'
  · rfl
  · rw [List.find?_eq_none] at h₁
    exact absurd (List.find?_some h₂)
      (h₁ e' ((hmem o₁).2 ((hmem o₂).1 (List.mem_of_find?_eq_some h₂))))
  · rw [List.find?_eq_none] at h₂
    exact absurd (List.find?_some h₁)
      (h₂ e ((hmem o₂).2 ((hmem o₁).1 (List.mem_of_find?_eq_some h₁))))
  · exact congrArg some (hsame e ((hmem o₁).1 (List.mem_of_find?_eq_some h₁)) e'
      ((hmem o₂).1 (List.mem_of_find?_eq_some h₂)) (List.find?_some h₁) (List.find?_some h₂))

/-- A search of a map for its one entry that passes a test finds it, whatever order the map is
ranged in. -/
theorem RangeOrder.find?_arrange_of_unique {α : Type} {p : String × α → Bool} {m : GoMap α}
    (hunique : ∀ e ∈ m, ∀ e' ∈ m, p e = true → p e' = true → e = e') (o₁ o₂ : RangeOrder) :
    (o₁.arrange m).find? p = (o₂.arrange m).find? p := by
  simpa using RangeOrder.map_find?_arrange (f := id) hunique o₁ o₂

/-! ## `%q` -/

/-- Go's `lowerhex`. -/
def lowerhex : List Char := "0123456789abcdef".toList

/-- The last `width` hex digits of a number, most significant first, in `lowerhex`. -/
def hexDigits : Nat → Nat → List Char
  | 0, _ => []
  | width + 1, n => hexDigits width (n / 16) ++ [lowerhex.getD (n % 16) '0']

/-- One character of `%q`, as `strconv.appendEscapedRune` writes it: the quote and the backslash
after a backslash, a printable character as it is, a control character that has a short escape
by it, and any other character as `\x` and two hex digits below a space and for DEL, as `\u` and
four below U+10000, and as `\U` and eight above. -/
def quoteChar (c : Char) : String :=
  if c = '"' ∨ c = '\\' then String.mk ['\\', c]
  else if isPrint c then c.toString
  else
    match c with
    | '\x07' => "\\a"
    | '\x08' => "\\b"
    | '\x0c' => "\\f"
    | '\n' => "\\n"
    | '\r' => "\\r"
    | '\t' => "\\t"
    | '\x0b' => "\\v"
    | c =>
      if c.toNat < 0x20 ∨ c.toNat = 0x7F then String.mk ('\\' :: 'x' :: hexDigits 2 c.toNat)
      else if c.toNat < 0x10000 then String.mk ('\\' :: 'u' :: hexDigits 4 c.toNat)
      else String.mk ('\\' :: 'U' :: hexDigits 8 c.toNat)

/-- `%q` of a string (`strconv.Quote`): the string in double quotes, with `quoteChar`'s escapes. -/
def goQuote (s : String) : String :=
  "\"" ++ String.join (s.toList.map quoteChar) ++ "\""

example : goQuote "a\u00A0b\x01é" = "\"a\\u00a0b\\x01é\"" := by decide

end OpenChoreo
