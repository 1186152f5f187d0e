import Goads.Session.Replies

/-!
# `PopulateFieldValues`

`PopulateFieldValues` walks the fields of a struct over the struct's bytes. A field that does
not fit the bytes is left as it is. A field of more than eight bytes whose type
`GetDataTypeInfo` describes by some fields is taken for a nested struct: those fields are
populated by a recursive call over the field's own bytes and become the field's fields. Every
other field gets its value from `DecodeFieldValue`.

The recursion follows the type names the PLC reports, over bytes that never grow. It returns
when those types can be ranked so that each descent goes to a lower rank; a PLC that describes a
type by a single field of that same type spanning it makes the call repeat itself forever.

## Main definitions

* `Goads.Session.populateField` — one iteration of the loop.
* `Goads.Session.populateFieldValues` — the function, its nested calls bounded by fuel.

## Main results

* `Goads.Session.populateFieldValues_succ_of` — a result found with some fuel is found with
  more: the fuel only bounds the depth of the nested calls.
* `Goads.Session.populateFieldValues_of_rank` — when the types the recursion descends into are
  ranked, each below the type it was found in, the function returns.
* `Goads.Session.populateFieldValues_self_none` — a field that spans its struct and whose type is
  described by itself alone makes every fuel run out.
* `Goads.Session.populateFieldValues_self_type` — such a description, parsed from a
  `GetDataTypeInfo` reply.

## Design

`GetDataTypeInfo` is a parameter `typeInfo`: the fields the PLC's reply for a type name parses
to, or `none` for an error. The code's function returns an error only when a nested call
does, and none of them ever does, so the model returns the populated fields and keeps `none`
for running out of fuel.
-/

namespace Goads.Session

open Ams

section Model

variable (typeInfo : List UInt8 → Option (List StructField))

/-- The fields `PopulateFieldValues` descends into at a field: for a field of more than eight
bytes, those `GetDataTypeInfo` returns for its type when it succeeds; none otherwise. -/
def nestedFields (f : StructField) : List StructField :=
  if 8 < f.size.toNat then (typeInfo f.dataType).getD [] else []

/-- One iteration of the loop of `PopulateFieldValues` on the struct bytes `data`, with
`recurse` for its nested call: the field as the iteration leaves it, or `none` if the nested call
does not return. -/
def populateField (recurse : List StructField → List UInt8 → Option (List StructField))
    (data : List UInt8) (f : StructField) : Option StructField :=
  let fieldEnd := f.offset.toNat + f.size.toNat
  if data.length < fieldEnd then some f else
  let fieldData := slice data f.offset.toNat fieldEnd
  match nestedFields typeInfo f with
  | [] => some { f with value := decodeFieldValue fieldData f.dataType }
  | nested => (recurse nested fieldData).map fun nested => { f with fields := nested }

/-- `PopulateFieldValues(c, ctx, targetAddr, senderAddr, fields, data)` with `c.GetDataTypeInfo`
as `typeInfo` and at most `fuel` calls deep: the fields with their values and nested fields filled
in, or `none` when the recursion goes deeper than `fuel`. -/
def populateFieldValues : ℕ → List StructField → List UInt8 → Option (List StructField)
  | 0, _, _ => none
  | fuel + 1, fields, data => fields.mapM (populateField typeInfo (populateFieldValues fuel) data)

end Model

section Run

variable {typeInfo : List UInt8 → Option (List StructField)}

lemma mapM_eq_some_of {g g' : StructField → Option StructField}
    (h : ∀ f x, g f = some x → g' f = some x) :
    ∀ {l : List StructField} {r : List StructField}, l.mapM g = some r → l.mapM g' = some r
  | [], _, hl => hl
  | f :: l, r, hl => by
    simp only [List.mapM_cons, Option.bind_eq_bind, Option.bind_eq_some, Option.pure_def,
      Option.some.injEq] at hl ⊢
    obtain ⟨x, hx, xs, hxs, rfl⟩ := hl
    exact ⟨x, h f x hx, xs, mapM_eq_some_of h hxs, rfl⟩

lemma mapM_isSome {g : StructField → Option StructField} :
    ∀ {l : List StructField}, (∀ f ∈ l, ∃ x, g f = some x) → ∃ r, l.mapM g = some r
  | [], _ => ⟨[], rfl⟩
  | f :: l, h => by
    obtain ⟨x, hx⟩ := h f (List.mem_cons_self f l)
    obtain ⟨xs, hxs⟩ := mapM_isSome fun g hg => h g (List.mem_cons_of_mem f hg)
    exact ⟨x :: xs, by rw [List.mapM_cons, hx, hxs]; rfl⟩

/-- A successful `mapM` relates each element to its image, in order. -/
lemma forall₂_of_mapM {g : StructField → Option StructField} :
    ∀ {l r : List StructField}, l.mapM g = some r → List.Forall₂ (fun f x => g f = some x) l r
  | [], r, h => by
    rw [List.mapM_nil, Option.pure_def, Option.some.injEq] at h
    exact h ▸ .nil
  | f :: l, r, h => by
    simp only [List.mapM_cons, Option.bind_eq_bind, Option.bind_eq_some, Option.pure_def,
      Option.some.injEq] at h
    obtain ⟨x, hx, xs, hxs, rfl⟩ := h
    exact .cons hx (forall₂_of_mapM hxs)

lemma nestedFields_ne_nil {f : StructField} (h : nestedFields typeInfo f ≠ []) :
    8 < f.size.toNat ∧ typeInfo f.dataType = some (nestedFields typeInfo f) := by
  unfold nestedFields at h ⊢
  split_ifs at h ⊢ with hs
  · refine ⟨hs, ?_⟩
    cases ht : typeInfo f.dataType with
    | none => rw [ht] at h; exact absurd rfl h
    | some fs => rfl
  · exact absurd rfl h

/-- An iteration returns whenever its nested call, if it makes one, returns. -/
lemma populateField_isSome {recurse : List StructField → List UInt8 → Option (List StructField)}
    {data : List UInt8} {f : StructField}
    (h : nestedFields typeInfo f ≠ [] → ∀ fieldData, ∃ r, recurse (nestedFields typeInfo f) fieldData = some r) :
    ∃ x, populateField typeInfo recurse data f = some x := by
  unfold populateField
  dsimp only
  split_ifs
  · exact ⟨f, rfl⟩
  · cases hn : nestedFields typeInfo f with
    | nil => exact ⟨_, rfl⟩
    | cons g gs =>
      obtain ⟨r, hr⟩ := h (by rw [hn]; exact List.cons_ne_nil g gs)
        (slice data f.offset.toNat (f.offset.toNat + f.size.toNat))
      rw [hn] at hr
      exact ⟨{ f with fields := r }, by simp only [hr, Option.map_some']⟩

/-- The iteration at a field that fits the bytes and has nested fields is the nested call. -/
lemma populateField_nested {recurse : List StructField → List UInt8 → Option (List StructField)}
    {data : List UInt8} {f : StructField} {nested : List StructField}
    (hfit : f.offset.toNat + f.size.toNat ≤ data.length) (hn : nestedFields typeInfo f = nested)
    (hne : nested ≠ []) :
    populateField typeInfo recurse data f =
      (recurse nested (slice data f.offset.toNat (f.offset.toNat + f.size.toNat))).map
        fun nested => { f with fields := nested } := by
  unfold populateField
  dsimp only
  rw [if_neg (by omega)]
  obtain ⟨g, gs, rfl⟩ := List.exists_cons_of_ne_nil hne
  rw [hn]

/-- One more unit of fuel does not change a result: the fuel only bounds the depth of the
nested calls. -/
lemma populateFieldValues_succ_of : ∀ {fuel : ℕ} {fields : List StructField} {data : List UInt8}
    {r : List StructField}, populateFieldValues typeInfo fuel fields data = some r →
      populateFieldValues typeInfo (fuel + 1) fields data = some r
  | 0, _, _, _, h => absurd h (by simp [populateFieldValues])
  | fuel + 1, fields, data, r, h => by
    refine mapM_eq_some_of (fun f x hx => ?_) h
    unfold populateField at hx ⊢
    dsimp only at hx ⊢
    split_ifs at hx ⊢
    · exact hx
    · cases hn : nestedFields typeInfo f with
      | nil => rw [hn] at hx; exact hx
      | cons g gs =>
        rw [hn] at hx
        obtain ⟨r', hr', rfl⟩ := Option.map_eq_some'.mp hx
        simp only [populateFieldValues_succ_of hr', Option.map_some']

/-- **`PopulateFieldValues` returns over a ranked type graph.** If every field of more than eight
bytes that `GetDataTypeInfo` returns for a type has a type of lower rank than that type, then on
fields whose types of more than eight bytes all rank below `n`, the function returns within
`n + 1` calls deep, whatever the bytes.

**Proof sketch.** Induction on `n`: an iteration only descends into the fields of a type of
rank below `n`, whose own types of more than eight bytes rank below that one
(`populateField_isSome`, `nestedFields_ne_nil`). -/
theorem populateFieldValues_of_rank (rank : List UInt8 → ℕ)
    (hrank : ∀ t fields, typeInfo t = some fields →
      ∀ f ∈ fields, 8 < f.size.toNat → rank f.dataType < rank t) :
    ∀ (n : ℕ) (fields : List StructField) (data : List UInt8),
      (∀ f ∈ fields, 8 < f.size.toNat → rank f.dataType < n) →
        ∃ r, populateFieldValues typeInfo (n + 1) fields data = some r := by
  intro n
  induction n with
  | zero =>
    intro fields data hf
    refine mapM_isSome fun f hfm => populateField_isSome fun hne => ?_
    exact absurd (hf f hfm (nestedFields_ne_nil hne).1) (Nat.not_lt_zero _)
  | succ m ih =>
    intro fields data hf
    refine mapM_isSome fun f hfm => populateField_isSome fun hne fieldData => ?_
    obtain ⟨hs, ht⟩ := nestedFields_ne_nil hne
    have hlt := hf f hfm hs
    exact ih _ fieldData fun g hg hgs => by have := hrank _ _ ht g hg hgs; omega

/-- A type `T` (the byte `84`) of one field `x` of ten bytes, of type `U` (the byte `85`), which
`GetDataTypeInfo` does not describe: ranking `T` above `U`, a field `r` of type `T` is populated
within three calls deep. -/
theorem populateFieldValues_of_rank_nested :
    let typeInfo : List UInt8 → Option (List StructField) :=
      fun t => if t = [84] then some [⟨[120], [85], 0, 10, .nil, []⟩] else none
    let rank : List UInt8 → ℕ := fun t => if t = [84] then 1 else 0
    let fields : List StructField := [⟨[114], [84], 0, 10, .nil, []⟩]
    (∀ t fs, typeInfo t = some fs → ∀ f ∈ fs, 8 < f.size.toNat → rank f.dataType < rank t) ∧
      (∀ f ∈ fields, 8 < f.size.toNat → rank f.dataType < 2) ∧
      ∃ r, populateFieldValues typeInfo (2 + 1) fields (List.replicate 10 0) = some r := by
  intro typeInfo rank fields
  have hrank : ∀ t fs, typeInfo t = some fs → ∀ f ∈ fs, 8 < f.size.toNat → rank f.dataType < rank t := by
    intro t fs ht f hf _
    by_cases h : t = [84]
    · simp only [typeInfo, if_pos h, Option.some.injEq] at ht
      subst ht
      rw [List.mem_singleton.mp hf]
      simp [rank, h]
    · simp [typeInfo, if_neg h] at ht
  have hfields : ∀ f ∈ fields, 8 < f.size.toNat → rank f.dataType < 2 := by
    intro f hf _
    rw [List.mem_singleton.mp hf]
    simp [rank]
  exact ⟨hrank, hfields, populateFieldValues_of_rank rank hrank 2 fields _ hfields⟩

/-- **A type described by itself.** A field of more than eight bytes that spans its struct's
bytes from offset `0`, and whose type `GetDataTypeInfo` describes by that field alone, makes
`PopulateFieldValues` call itself on the same fields and bytes: no fuel suffices.

**Proof sketch.** Induction on the fuel: the one iteration is the nested call on the same
arguments with one unit of fuel less (`populateField_nested`). -/
lemma populateFieldValues_self_none {f : StructField} {data : List UInt8}
    (hsize : 8 < f.size.toNat) (hoff : f.offset = 0) (hlen : data.length = f.size.toNat)
    (hinfo : typeInfo f.dataType = some [f]) :
    ∀ fuel, populateFieldValues typeInfo fuel [f] data = none := by
  have hn : nestedFields typeInfo f = [f] := by rw [nestedFields, if_pos hsize, hinfo]; rfl
  have hoff' : f.offset.toNat = 0 := by rw [hoff]; rfl
  have hslice : slice data f.offset.toNat (f.offset.toNat + f.size.toNat) = data := by
    rw [hoff', Nat.zero_add, ← hlen, slice, List.drop_zero, Nat.sub_zero, List.take_length]
  intro fuel
  induction fuel with
  | zero => rfl
  | succ fuel ih =>
    rw [populateFieldValues, List.mapM_cons,
      populateField_nested (by omega) hn (List.cons_ne_nil f []), hslice, ih]
    rfl

end Run

/-! ## A type described by itself -/

/-- A sub-item `x` (the byte `120`) of type `T` (the byte `84`): ten bytes at offset `0`. -/
def selfItem : SubItem :=
  ⟨⟨46, 0, 0, 0, 10, 0, 0, 0, 1, 1, 0, 0, 0⟩, [120], [84], [], by decide, by decide, rfl, rfl, rfl⟩

/-- The reply describing `T`, of ten bytes, by the one sub-item `selfItem`. -/
def selfTypeReply : DataTypeReply :=
  ⟨⟨0, 0, 0, 0, 10, 0, 0, 0, 1, 0, 0, 0, 1⟩, [84], [], [], [selfItem], rfl, rfl, rfl, rfl,
    List.cons_ne_nil _ _⟩

/-- A PLC that answers the data type query of `T` with `selfTypeReply`, and fails every other. -/
def selfTypeInfo (t : List UInt8) : Option (List StructField) :=
  if t = [84] then dataTypeInfoOfReply selfTypeReply.encode else none

/-- **`PopulateFieldValues` does not terminate on a self-describing type.** The PLC replies to
the data type query of `T` with one sub-item `x` of type `T`, ten bytes at offset `0`, which
`GetDataTypeInfo` parses to the one field `x`. `PopulateFieldValues([x], data)` on ten bytes
then calls itself on `[x]` and the same ten bytes, again and again: no fuel suffices. -/
theorem populateFieldValues_self_type :
    selfTypeInfo [84] = some [selfItem.field] ∧
      ∀ fuel, populateFieldValues selfTypeInfo fuel [selfItem.field] (List.replicate 10 0) = none :=
  have hinfo : selfTypeInfo [84] = some [selfItem.field] := rfl
  ⟨hinfo, populateFieldValues_self_none (by decide) rfl rfl hinfo⟩

end Goads.Session
