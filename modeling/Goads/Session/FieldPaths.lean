import Goads.Session.NestedWrite
import Goads.Session.Populate

/-!
# Following a field path

Three functions of the client follow a path of field names through a struct's fields, taking at
every level the first field of the name. `FindFieldByPath` returns the field.
`FindFieldByPathWithOffset` also adds up the `Offset`s along the path in a `uint32`.
`FindNestedField` slices the struct's bytes level by level, and fails where a field does not fit
its parent's bytes or where the path goes on from a field with no fields. `PopulateFieldValues`
walks the same levels over the same bytes, and decodes every field it does not descend into.

The three lookups find the same field wherever the last one succeeds. Over the fields
`PopulateFieldValues` fills in, every field that `FindNestedField` reaches holds what
`PopulateFieldValues` made of exactly the bytes `FindNestedField` returns for it.

## Main definitions

* `Goads.Session.findFieldByPath` — `FindFieldByPath`.

## Main results

* `Goads.Session.findFieldByPath_agrees` — `FindFieldByPath` finds the field that
  `FindFieldByPathWithOffset` finds from any base offset, and the field `FindNestedField` reads.
* `Goads.Session.populateFieldValues_findNestedField` — after `PopulateFieldValues` over a
  struct's bytes, a field that `FindNestedField` reaches over the same bytes is one of two things.
  It is a leaf holding `DecodeFieldValue` of the bytes it reads, or a struct whose fields are its
  type's fields populated over those bytes.

## Design

The fields `GetDataTypeInfo` returns carry no fields of their own (`dataTypeInfoOfReply_flat`).
The results over `PopulateFieldValues` assume this of its input and of its `GetDataTypeInfo`.
-/

namespace Goads.Session

open Ams

/-- `FindFieldByPath`: the field a path names, through the nested fields. -/
def findFieldByPath : List StructField → List (List UInt8) → Option StructField
  | _, [] => none
  | fields, p :: path =>
    match fields.find? (·.name == p) with
    | none => none
    | some f => if path = [] then some f else findFieldByPath f.fields path

/-- `FindFieldByPath` finds the field `fieldAt` names. -/
lemma findFieldByPath_eq (path : List (List UInt8)) :
    ∀ fields : List StructField, findFieldByPath fields path = (fieldAt fields path).map Prod.fst := by
  induction path with
  | nil => intro _; rfl
  | cons p path ih =>
    intro fields
    cases hg : fields.find? (·.name == p) with
    | none => simp only [findFieldByPath, fieldAt, hg, Option.map_none']
    | some g =>
      simp only [findFieldByPath, hg, fieldAt_cons hg]
      split_ifs
      · rfl
      · rw [ih, Option.map_map]
        rfl

/-- **The path lookups agree.** For every field tree and every path, `FindFieldByPath` finds the
field that `FindFieldByPathWithOffset` finds, from every base offset, or fails where it fails. And
whenever `FindNestedField` reads a field out of any bytes, `FindFieldByPath` finds that field.

**Proof sketch.** All three follow `fieldAt` (`findFieldByPath_eq`,
`findFieldByPathWithOffset_eq`, `findNestedField_eq_some`). -/
theorem findFieldByPath_agrees (fields : List StructField) (path : List (List UInt8)) :
    (∀ base : UInt32,
      findFieldByPath fields path = (findFieldByPathWithOffset fields path base).map Prod.fst) ∧
    ∀ (r : List UInt8) (f : StructField) (b : List UInt8),
      findNestedField fields path r = some (f, b) → findFieldByPath fields path = some f := by
  refine ⟨fun base => ?_, fun r f b h => ?_⟩
  · rw [findFieldByPath_eq, findFieldByPathWithOffset_eq, Option.map_map]
    rfl
  · obtain ⟨o, ho, -⟩ := findNestedField_eq_some path h
    rw [findFieldByPath_eq, ho]
    rfl

/-! ## What `FindNestedField` reads out of populated fields -/

section Populated

variable {typeInfo : List UInt8 → Option (List StructField)}

/-- What one iteration of `PopulateFieldValues` does with a field. It leaves a field that does not
fit as it is, and decodes a field with no nested fields. It replaces the fields of one with nested
fields by those fields, populated over its bytes. -/
lemma populateField_cases {recurse : List StructField → List UInt8 → Option (List StructField)}
    {data : List UInt8} {f x : StructField} (h : populateField typeInfo recurse data f = some x) :
    (data.length < f.offset.toNat + f.size.toNat ∧ x = f) ∨
    (f.offset.toNat + f.size.toNat ≤ data.length ∧ nestedFields typeInfo f = [] ∧
      x = { f with
        value := decodeFieldValue (slice data f.offset.toNat (f.offset.toNat + f.size.toNat))
          f.dataType }) ∨
    (f.offset.toNat + f.size.toNat ≤ data.length ∧ nestedFields typeInfo f ≠ [] ∧
      ∃ nested, recurse (nestedFields typeInfo f)
        (slice data f.offset.toNat (f.offset.toNat + f.size.toNat)) = some nested ∧
        x = { f with fields := nested }) := by
  unfold populateField at h
  dsimp only at h
  split_ifs at h with hfit
  · exact .inl ⟨hfit, (Option.some.inj h).symm⟩
  · cases hn : nestedFields typeInfo f with
    | nil =>
      rw [hn] at h
      exact .inr (.inl ⟨by omega, rfl, (Option.some.inj h).symm⟩)
    | cons g gs =>
      rw [hn] at h
      obtain ⟨nested, hr, rfl⟩ := Option.map_eq_some'.mp h
      exact .inr (.inr ⟨by omega, List.cons_ne_nil g gs, nested, hr, rfl⟩)

lemma populateField_name {recurse : List StructField → List UInt8 → Option (List StructField)}
    {data : List UInt8} {f x : StructField} (h : populateField typeInfo recurse data f = some x) :
    x.name = f.name := by
  rcases populateField_cases h with ⟨-, rfl⟩ | ⟨-, -, rfl⟩ | ⟨-, -, -, -, rfl⟩ <;> rfl

/-- A field found by name among the images of fields that keep their names is the image of the
field of that name. -/
lemma find?_of_forall₂ {g : StructField → Option StructField}
    (hg : ∀ f x, g f = some x → x.name = f.name) {p : List UInt8} :
    ∀ {l r : List StructField}, List.Forall₂ (fun f x => g f = some x) l r →
      ∀ {x : StructField}, r.find? (·.name == p) = some x →
        ∃ f, l.find? (·.name == p) = some f ∧ g f = some x
  | _, _, .nil, _, h => by cases h
  | f :: l, y :: r, .cons hy hr, x, h => by
    have hn : (y.name == p) = (f.name == p) := by rw [hg f y hy]
    rw [List.find?_cons, hn] at h
    rw [List.find?_cons]
    cases hp : (f.name == p)
    · rw [hp] at h
      exact find?_of_forall₂ hg hr h
    · rw [hp] at h
      exact ⟨f, rfl, (Option.some.inj h) ▸ hy⟩

/-- `PopulateFieldValues` returns as many fields as it is given. -/
lemma length_populateFieldValues {fuel : ℕ} {fields r : List StructField} {data : List UInt8}
    (h : populateFieldValues typeInfo fuel fields data = some r) : r.length = fields.length := by
  cases fuel with
  | zero => cases h
  | succ fuel => exact (forall₂_of_mapM h).length_eq.symm

/-- **`FindNestedField` reads what `PopulateFieldValues` decoded.** Let `GetDataTypeInfo` return
fields without fields of their own, as parsed replies do, and let `PopulateFieldValues` fill in
such fields over a struct's bytes. Then `FindNestedField`, over the populated fields and the same
bytes, reaches a field in one of two forms, whatever the path. It is a leaf whose value is
`DecodeFieldValue` of the bytes `FindNestedField` returns for it. Or it is a struct whose fields
are its type's fields, populated over those bytes.

**Proof sketch.** Induction on the path. At each level the field found among the populated
fields is the image of the field of that name (`find?_of_forall₂`). `populateField_cases` says
what the image is. A field that does not fit is not read. A decoded field has no fields, so the
path ends there. A struct was populated over the very slice `FindNestedField` descends into. -/
theorem populateFieldValues_findNestedField
    (hflat : ∀ t fs, typeInfo t = some fs → ∀ f ∈ fs, f.fields = []) (path : List (List UInt8)) :
    ∀ {fuel : ℕ} {fields r : List StructField} {data : List UInt8},
      (∀ f ∈ fields, f.fields = []) → populateFieldValues typeInfo fuel fields data = some r →
      ∀ {f : StructField} {b : List UInt8}, findNestedField r path data = some (f, b) →
        (f.fields = [] ∧ f.value = decodeFieldValue b f.dataType) ∨
        (f.fields ≠ [] ∧
          ∃ fuel', populateFieldValues typeInfo fuel' (nestedFields typeInfo f) b = some f.fields) := by
  induction path with
  | nil => intro _ _ _ _ _ _ _ _ h; cases h
  | cons p path ih =>
    intro fuel fields r data hfields hpop f b hfind
    cases fuel with
    | zero => cases hpop
    | succ fuel =>
      cases hx : r.find? (·.name == p) with
      | none => rw [findNestedField, hx] at hfind; cases hfind
      | some x =>
        obtain ⟨f₀, hf₀, hpf⟩ := find?_of_forall₂ (fun _ _ => populateField_name)
          (forall₂_of_mapM hpop) hx
        rw [findNestedField_cons hx] at hfind
        rcases populateField_cases hpf with ⟨hfit, rfl⟩ | ⟨hfit, -, rfl⟩ |
          ⟨hfit, hne, nested, hrec, rfl⟩
        · rw [if_pos hfit] at hfind
          cases hfind
        · -- a decoded field
          have he : f₀.fields = [] := hfields f₀ (List.mem_of_find?_eq_some hf₀)
          dsimp only at hfind
          rw [if_neg (by omega)] at hfind
          split_ifs at hfind with hp hemp
          · obtain ⟨rfl, rfl⟩ := Prod.mk.inj (Option.some.inj hfind)
            exact .inl ⟨he, rfl⟩
          · rw [he] at hemp
            exact absurd rfl hemp
        · -- a nested struct
          have hne' : nested ≠ [] := fun h =>
            hne (List.length_eq_zero.mp (by rw [← length_populateFieldValues hrec, h]; rfl))
          dsimp only at hfind
          rw [if_neg (by omega)] at hfind
          split_ifs at hfind with hp hemp
          · obtain ⟨rfl, rfl⟩ := Prod.mk.inj (Option.some.inj hfind)
            exact .inr ⟨hne', fuel, hrec⟩
          · exact ih (hflat _ _ (nestedFields_ne_nil hne).2) hrec hfind

end Populated

/-- The field `x` of `ST`: an `INT` at offset `0`. -/
def stX : StructField := ⟨[120], ascii "INT", 0, 2, .nil, []⟩

/-- The field `y` of `ST`: a `DINT` at offset `2`. -/
def stY : StructField := ⟨[121], ascii "DINT", 2, 4, .nil, []⟩

/-- A PLC that describes the ten-byte struct type `ST` by `x` and `y`, and no other type. -/
def stTypeInfo (t : List UInt8) : Option (List StructField) :=
  if t = ascii "ST" then some [stX, stY] else none

/-- A variable's fields: one field `s` of type `ST`. -/
def stFields : List StructField := [⟨[115], ascii "ST", 0, 10, .nil, []⟩]

/-- `PopulateFieldValues` descends into `s` and decodes `y` from its bytes `[2, 0, 0, 0]`.
`FindNestedField` then reads `s.y` back out of the populated fields and the same bytes, two
levels deep. -/
theorem populateFieldValues_findNestedField_st :
    let y : StructField := { stY with value := .int .int32 2 }
    let r : List StructField :=
      [⟨[115], ascii "ST", 0, 10, .nil, [{ stX with value := .int .int16 1 }, y]⟩]
    (∀ t fs, stTypeInfo t = some fs → ∀ f ∈ fs, f.fields = []) ∧
    (∀ f ∈ stFields, f.fields = []) ∧
    populateFieldValues stTypeInfo 2 stFields [1, 0, 2, 0, 0, 0, 0, 0, 0, 0] = some r ∧
    findNestedField r [[115], [121]] [1, 0, 2, 0, 0, 0, 0, 0, 0, 0] = some (y, [2, 0, 0, 0]) ∧
    ((y.fields = [] ∧ y.value = decodeFieldValue [2, 0, 0, 0] y.dataType) ∨
      (y.fields ≠ [] ∧ ∃ fuel',
        populateFieldValues stTypeInfo fuel' (nestedFields stTypeInfo y) [2, 0, 0, 0] = some y.fields)) := by
  intro y r
  have hflat : ∀ t fs, stTypeInfo t = some fs → ∀ f ∈ fs, f.fields = [] := by
    intro t fs h f hf
    unfold stTypeInfo at h
    split_ifs at h
    cases h
    simp only [List.mem_cons, List.not_mem_nil, or_false] at hf
    rcases hf with rfl | rfl <;> rfl
  have hfields : ∀ f ∈ stFields, f.fields = [] := by
    simp only [stFields, List.mem_singleton, forall_eq]
  have hpop : populateFieldValues stTypeInfo 2 stFields [1, 0, 2, 0, 0, 0, 0, 0, 0, 0] = some r := rfl
  have hfind : findNestedField r [[115], [121]] [1, 0, 2, 0, 0, 0, 0, 0, 0, 0] =
      some (y, [2, 0, 0, 0]) := rfl
  exact ⟨hflat, hfields, hpop, hfind, populateFieldValues_findNestedField hflat _ hfields hpop hfind⟩

end Goads.Session
