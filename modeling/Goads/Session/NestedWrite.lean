import Goads.Session.Replies

/-!
# Writing a nested field

`Session.WriteNestedField` and `Client.WriteNestedField` read a struct by handle, find the
field a path names with `FindFieldByPathWithOffset`, which adds up the `Offset`s along the path
in a `uint32`, check that the field fits the bytes read and that the data has the field's size,
and write the struct back with the data copied over the field. `FindNestedField`, the read path,
slices the bytes level by level instead, and checks each level against its parent's bytes.

The two designate the same bytes whenever the read path succeeds on the struct. The write path
checks only the final range against the whole struct, so a nested field that does not lie
within its parent is written although the read path cannot read it back. And the fields
`GetDataTypeInfo` returns never carry fields of their own, so a path of two or more names is not
found in them.

## Main definitions

* `Goads.Session.findNestedField` — the read path.
* `Goads.Session.fieldAt` — the field a path names, and the natural-number sum of the offsets
  along the path.
* `Goads.Session.writeBack` — what both `WriteNestedField`s do with the struct bytes: find,
  check, copy.
* `Goads.Session.clientWriteNestedField` — `Client.WriteNestedField`.
* `Goads.Session.WritesField` — a write-back of the data over the field a path names.

## Main results

* `Goads.Session.writeBack_writesField` — every write-back is one.
* `Goads.Session.nestedWrite_agrees_with_read` — both `WriteNestedField`s write back such a
  payload, over the fields they loaded and into the bytes of the read of the symbol's size.
* `Goads.Session.nestedWrite_outside_parent` — a write the read path cannot read back.
* `Goads.Session.writeNestedField_deep_fails` — against a PLC whose type answers are parsed
  replies, a session nested write of two or more levels fails from every state whose cache holds
  only flat fields.
* `Goads.Session.nestedWrite_spec_layout_fails` — the nested write of the specification's
  two-level layout fails.
-/

namespace Goads.Session

open Ams

/-! ## The two paths -/

/-- `FindNestedField`: the field a path names and its bytes, sliced out of its parent's bytes
level by level. Each field must fit its parent's bytes, and a field the path goes through must
have fields. -/
def findNestedField :
    List StructField → List (List UInt8) → List UInt8 → Option (StructField × List UInt8)
  | _, [], _ => none
  | fields, p :: path, parentData =>
    match fields.find? (·.name == p) with
    | none => none
    | some f =>
      let fieldEnd := f.offset.toNat + f.size.toNat
      if parentData.length < fieldEnd then none else
      let fieldData := slice parentData f.offset.toNat fieldEnd
      if path = [] then some (f, fieldData) else
      if f.fields.isEmpty then none else
      findNestedField f.fields path fieldData

/-- The field a path names, and the sum of the `Offset`s along the path as a natural number. -/
def fieldAt : List StructField → List (List UInt8) → Option (StructField × ℕ)
  | _, [] => none
  | fields, p :: path =>
    match fields.find? (·.name == p) with
    | none => none
    | some f =>
      if path = [] then some (f, f.offset.toNat)
      else (fieldAt f.fields path).map fun q => (q.1, f.offset.toNat + q.2)

/-- What both `WriteNestedField`s do with the struct bytes `data` once the fields are loaded: find
the field and its offset, check that the field fits `data` and that `fieldData` has its size, and
`copy` `fieldData` over the field. -/
def writeBack (fields : List StructField) (fieldPath : List (List UInt8))
    (fieldData data : List UInt8) : Option (List UInt8) :=
  match findFieldByPathWithOffset fields fieldPath 0 with
  | none => none
  | some (field, absoluteOffset) =>
    let fieldEnd := absoluteOffset.toNat + field.size.toNat
    if data.length < fieldEnd ∨ fieldData.length ≠ field.size.toNat then none
    else some (data.take absoluteOffset.toNat ++ fieldData ++ data.drop fieldEnd)

/-- `Client.WriteNestedField`, with the `k`-th reply to `GetSymHandleByName`: the struct is read
with the size `GetSymbol` reports and, since the `Symbol` it returns has no fields, the fields
are always fetched with `GetDataTypeInfo`. The request written back, or `none` for an error. -/
def clientWriteNestedField (plc : Plc) (k : ℕ) (rootVar : List UInt8)
    (fieldPath : List (List UInt8)) (fieldData : List UInt8) : Option Request := do
  let symbol ← plc.symbol rootVar
  let handle ← plc.handle k rootVar
  let data := plc.read handle symbol.size
  let fields ← plc.dataTypeInfo symbol.dataType
  let payload ← writeBack fields fieldPath fieldData data
  return .write 0xF005 handle payload

/-! ## Copying over a range -/

section Splice

variable {r d : List UInt8} {a : ℕ}

lemma length_splice (h : a + d.length ≤ r.length) :
    (r.take a ++ d ++ r.drop (a + d.length)).length = r.length := by
  simp only [List.length_append, List.length_take, List.length_drop]
  omega

/-- The copy holds `d` over `[a, a + len d)` and `r` everywhere else. -/
lemma getElem?_splice (h : a + d.length ≤ r.length) (i : ℕ) :
    (r.take a ++ d ++ r.drop (a + d.length))[i]? =
      if a ≤ i ∧ i < a + d.length then d[i - a]? else r[i]? := by
  have ha : (r.take a).length = a := by simp only [List.length_take]; omega
  rw [List.append_assoc]
  by_cases h₁ : i < a
  · rw [List.getElem?_append_left (by omega), List.getElem?_take_of_lt h₁, if_neg (by omega)]
  rw [List.getElem?_append_right (by omega), ha]
  by_cases h₂ : i < a + d.length
  · rw [List.getElem?_append_left (by omega), if_pos ⟨by omega, h₂⟩]
  · rw [List.getElem?_append_right (by omega), List.getElem?_drop, if_neg (by omega)]
    congr 1
    omega

lemma slice_splice (h : a + d.length ≤ r.length) :
    slice (r.take a ++ d ++ r.drop (a + d.length)) a (a + d.length) = d :=
  slice_middle (r.take a) d _ rfl (by simp only [List.length_take]; omega)
    (by simp only [List.length_take]; omega)

end Splice

/-! ## The write path -/

lemma uint32_add_ofNat_add (b x : UInt32) (q : ℕ) :
    b + x + UInt32.ofNat q = b + UInt32.ofNat (x.toNat + q) := by
  apply UInt32.toNat.inj
  show ((b.toNat + x.toNat) % 2 ^ 32 + q % 2 ^ 32) % 2 ^ 32 =
    (b.toNat + (x.toNat + q) % 2 ^ 32) % 2 ^ 32
  omega

/-- `FindFieldByPathWithOffset` finds the field `fieldAt` names, at the sum of the offsets taken
modulo `2^32`. -/
lemma findFieldByPathWithOffset_eq (path : List (List UInt8)) :
    ∀ (fields : List StructField) (base : UInt32),
      findFieldByPathWithOffset fields path base =
        (fieldAt fields path).map fun q => (q.1, base + UInt32.ofNat q.2) := by
  induction path with
  | nil => intro _ _; rfl
  | cons p path ih =>
    intro fields base
    simp only [findFieldByPathWithOffset, fieldAt]
    cases fields.find? (·.name == p) with
    | none => rfl
    | some f =>
      dsimp only
      split_ifs
      · have hx : UInt32.ofNat f.offset.toNat = f.offset :=
          UInt32.toNat.inj (Nat.mod_eq_of_lt (UInt32.toNat_lt_size f.offset))
        rw [Option.map_some', hx]
      · rw [ih, Option.map_map]
        congr 1
        funext q
        exact congrArg (Prod.mk q.1) (uint32_add_ofNat_add base f.offset q.2)

/-! ## The read path -/

/-- `fieldAt` one level down, at the field it finds for the path's first name. -/
lemma fieldAt_cons {fields : List StructField} {p : List UInt8} {g : StructField}
    (hg : fields.find? (·.name == p) = some g) (path : List (List UInt8)) :
    fieldAt fields (p :: path) = if path = [] then some (g, g.offset.toNat)
      else (fieldAt g.fields path).map fun q => (q.1, g.offset.toNat + q.2) := by
  rw [fieldAt, hg]

/-- `FindNestedField` one level down, at the field it finds for the path's first name. -/
lemma findNestedField_cons {fields : List StructField} {p : List UInt8} {g : StructField}
    (hg : fields.find? (·.name == p) = some g) (path : List (List UInt8)) (r : List UInt8) :
    findNestedField fields (p :: path) r =
      if r.length < g.offset.toNat + g.size.toNat then none else
      if path = [] then some (g, slice r g.offset.toNat (g.offset.toNat + g.size.toNat)) else
      if g.fields.isEmpty then none else
      findNestedField g.fields path (slice r g.offset.toNat (g.offset.toNat + g.size.toNat)) := by
  rw [findNestedField, hg]

/-- What `FindNestedField` reads: the field `fieldAt` names, the bytes of its range within the
struct, and the same field and range on any struct bytes of the same length. -/
lemma findNestedField_eq_some (path : List (List UInt8)) :
    ∀ {fields : List StructField} {r : List UInt8} {f : StructField} {b : List UInt8},
      findNestedField fields path r = some (f, b) →
      ∃ o, fieldAt fields path = some (f, o) ∧ o + f.size.toNat ≤ r.length ∧
        b = slice r o (o + f.size.toNat) ∧
        ∀ r' : List UInt8, r'.length = r.length →
          findNestedField fields path r' = some (f, slice r' o (o + f.size.toNat)) := by
  induction path with
  | nil => intro _ _ _ _ h; cases h
  | cons p path ih =>
    intro fields r f b h
    cases hg : fields.find? (·.name == p) with
    | none => rw [findNestedField, hg] at h; cases h
    | some g =>
      rw [findNestedField_cons hg] at h
      rw [fieldAt_cons hg]
      split_ifs at h with hfit hp hne
      · obtain ⟨rfl, rfl⟩ := Prod.mk.inj (Option.some.inj h)
        refine ⟨g.offset.toNat, by rw [if_pos hp], by omega, rfl, fun r' hr' => ?_⟩
        rw [findNestedField_cons hg, if_neg (by omega), if_pos hp]
      · obtain ⟨o, ho, hle, rfl, hrd⟩ := ih h
        have hlen := length_slice (Nat.le_add_right g.offset.toNat g.size.toNat)
          (Nat.le_of_not_lt hfit)
        rw [Nat.add_sub_cancel_left] at hlen
        rw [hlen] at hle
        refine ⟨g.offset.toNat + o, by rw [if_neg hp, ho]; rfl, by omega,
          by rw [slice_slice r (by omega) (by omega), Nat.add_assoc], fun r' hr' => ?_⟩
        rw [findNestedField_cons hg, if_neg (by omega), if_neg hp, if_neg hne,
          hrd _ (by rw [hlen, length_slice (by omega) (by omega)]; omega),
          slice_slice r' (by omega) (by omega), Nat.add_assoc]

/-- For a path of one name the read path checks what the write path checks: the field fits the
struct bytes. -/
lemma findNestedField_single {fields : List StructField} {a : List UInt8} {f : StructField} {o : ℕ}
    (hfa : fieldAt fields [a] = some (f, o)) {r : List UInt8}
    (hfit : o % 2 ^ 32 + f.size.toNat ≤ r.length) :
    findNestedField fields [a] r = some (f, slice r o (o + f.size.toNat)) := by
  cases hf : fields.find? (·.name == a) with
  | none => rw [fieldAt, hf] at hfa; cases hfa
  | some g =>
    rw [fieldAt_cons hf, if_pos rfl] at hfa
    obtain ⟨rfl, rfl⟩ := Prod.mk.inj (Option.some.inj hfa)
    have ho : g.offset.toNat < 2 ^ 32 := UInt32.toNat_lt_size g.offset
    rw [findNestedField_cons hf, if_neg (by omega), if_pos rfl]

/-! ## What a write-back writes -/

/-- A write-back of `d` into the struct bytes `r` over the field `f` that `path` names in
`fields`, at the natural-number offset `o`: `d` has the field's size; the payload has the length
of `r`, holds `d` over `[o mod 2^32, o mod 2^32 + size)` and `r` everywhere else; for a path of
one name, `FindNestedField` reads the range `[o, o + size)` out of `r`; and whenever
`FindNestedField` reads the field out of `r` (shorter than `2^32` bytes, as the data of every
`Read` response is), it reads the range `[o, o + size)`, the one written, and reads `d` back out
of the payload. -/
def WritesField (fields : List StructField) (path : List (List UInt8)) (r d payload : List UInt8) :
    Prop :=
  ∃ f o, fieldAt fields path = some (f, o) ∧ d.length = f.size.toNat ∧
    payload.length = r.length ∧
    (∀ i, payload[i]? =
      if o % 2 ^ 32 ≤ i ∧ i < o % 2 ^ 32 + d.length then d[i - o % 2 ^ 32]? else r[i]?) ∧
    (∀ a, path = [a] → findNestedField fields path r = some (f, slice r o (o + d.length))) ∧
    (r.length < 2 ^ 32 → ∀ g b, findNestedField fields path r = some (g, b) →
      g = f ∧ o % 2 ^ 32 = o ∧ b = slice r o (o + d.length) ∧
        findNestedField fields path payload = some (f, d))

/-- **Every write-back is one of the field.**

**Proof sketch.** `FindFieldByPathWithOffset` finds the field of `fieldAt` at the offset taken
modulo `2^32` (`findFieldByPathWithOffset_eq`), and the copy is `d` over that range
(`getElem?_splice`). For one name the read path makes the same check
(`findNestedField_single`). If `FindNestedField` reads the field out of `r`, its range lies in
`r`, so below `2^32`, and its success depends only on the length (`findNestedField_eq_some`). -/
theorem writeBack_writesField {fields : List StructField} {path : List (List UInt8)}
    {d r payload : List UInt8} (hw : writeBack fields path d r = some payload) :
    WritesField fields path r d payload := by
  unfold writeBack at hw
  rw [findFieldByPathWithOffset_eq] at hw
  cases hfa : fieldAt fields path with
  | none => rw [hfa] at hw; cases hw
  | some q =>
    obtain ⟨f, o⟩ := q
    rw [hfa, Option.map_some'] at hw
    dsimp only at hw
    have ha : (0 + UInt32.ofNat o).toNat = o % 2 ^ 32 := by
      show (0 + o % 2 ^ 32) % 2 ^ 32 = o % 2 ^ 32
      omega
    rw [ha] at hw
    split_ifs at hw with hc
    obtain ⟨hfit, hd⟩ : o % 2 ^ 32 + d.length ≤ r.length ∧ d.length = f.size.toNat := by omega
    rw [← hd] at hw
    cases hw
    refine ⟨f, o, hfa, hd, length_splice hfit, getElem?_splice hfit, ?_, fun hr g b hn => ?_⟩
    · rintro a rfl
      rw [hd, findNestedField_single hfa (hd ▸ hfit)]
    obtain ⟨o', ho', hle, rfl, hrd⟩ := findNestedField_eq_some path hn
    obtain ⟨rfl, rfl⟩ := Prod.mk.inj (Option.some.inj (hfa.symm.trans ho'))
    have hmod : o % 2 ^ 32 = o := Nat.mod_eq_of_lt (by omega)
    rw [hmod] at hfit ⊢
    refine ⟨rfl, rfl, by rw [hd], ?_⟩
    rw [hrd _ (length_splice hfit), ← hd, slice_splice hfit]

/-- The inversion of `Session.WriteNestedField` at its write-back: the symbol and the handle it
obtained, the fields it loaded, and, as its last request, the write of what `writeBack` computes
from them and the struct bytes it read. -/
lemma writeNestedField_sent {plc : Plc} {rootVar : List UInt8} {path : List (List UInt8)}
    {d : List UInt8} {s : State} (hs : (writeNestedField plc rootVar path d s).1 = some ()) :
    ∃ p s₁ h s₂ fields payload, getSymbol plc rootVar s = (some p, s₁) ∧
      getOrCreateHandle plc rootVar s₁ = (some h, s₂) ∧
      (loadFields plc rootVar p (s₂.send (.read 0xF005 h (s₂.deref p).size))).1 = some fields ∧
      writeBack fields path d (plc.read h (s₂.deref p).size) = some payload ∧
      (writeNestedField plc rootVar path d s).2.sent.getLast? = some (.write 0xF005 h payload) := by
  unfold writeNestedField at hs ⊢
  generalize getSymbol plc rootVar s = q₁ at hs ⊢
  obtain ⟨_ | p, s₁⟩ := q₁
  · cases hs
  dsimp only at hs ⊢
  generalize h₂ : getOrCreateHandle plc rootVar s₁ = q₂ at hs ⊢
  obtain ⟨_ | h, s₂⟩ := q₂
  · cases hs
  dsimp only at hs ⊢
  generalize h₃ : loadFields plc rootVar p _ = q₃ at hs ⊢
  obtain ⟨_ | fields, s₃⟩ := q₃
  · cases hs
  dsimp only at hs ⊢
  refine ⟨p, s₁, h, s₂, fields, ?_⟩
  unfold writeBack
  generalize findFieldByPathWithOffset fields path 0 = q₄ at hs ⊢
  obtain _ | ⟨field, off⟩ := q₄
  · cases hs
  dsimp only at hs ⊢
  split_ifs at hs ⊢ with hc
  exact ⟨_, rfl, h₂, by rw [h₃], rfl, by simp [State.send]⟩

/-- The inversion of `Client.WriteNestedField`: the symbol, the handle and the fields
`GetDataTypeInfo` returned, and the request it writes, the write of what `writeBack` computes from
those fields and the bytes read with the symbol's size. -/
lemma clientWriteNestedField_sent {plc : Plc} {k : ℕ} {rootVar : List UInt8}
    {path : List (List UInt8)} {d : List UInt8} {req : Request}
    (hc : clientWriteNestedField plc k rootVar path d = some req) :
    ∃ sym h fields payload, plc.symbol rootVar = some sym ∧ plc.handle k rootVar = some h ∧
      plc.dataTypeInfo sym.dataType = some fields ∧
      writeBack fields path d (plc.read h sym.size) = some payload ∧
      req = .write 0xF005 h payload := by
  simp only [clientWriteNestedField, Option.bind_eq_bind, Option.bind_eq_some] at hc
  obtain ⟨sym, hsym, h, hh, fields, hf, payload, hw, hreq⟩ := hc
  exact ⟨sym, h, fields, payload, hsym, hh, hf, hw, (Option.some.inj hreq).symm⟩

/-- A PLC whose only variable `r` (the byte `114`) is a struct of ten bytes of type `T` (the byte
`84`) and answers the data type query for any type with `fields`; handles count up from
`1000`, and a read returns zeros. A nested `fields` is a tree that `Client.GetDataTypeInfo` never
returns (`dataTypeInfoOfReply_flat`): with the real client it reaches `WriteNestedField` only
through the cache, when a caller has set `Fields` on the `*SymbolInfo` that `GetSymbol` returns,
and the write path then runs on it as here. -/
def layoutPlc (fields : List StructField) : Plc :=
  { symbol := fun n => if n = [114] then some ⟨[114], [84], 10⟩ else none
    handle := fun k _ => some (UInt32.ofNat (1000 + k))
    uploadInfo := putUint32 0 ++ List.replicate 20 0
    upload := []
    dataTypeInfo := fun _ => some fields
    read := fun _ n => List.replicate n.toNat 0 }

/-- Field `a` (the byte `97`) at offset `0` of size `2`, holding field `b` (the byte `98`) at
offset `4` of size `2`: `b` lies outside `a`. -/
def outsideParentFields : List StructField :=
  [⟨[97], [84], 0, 2, .nil, [⟨[98], [73, 78, 84], 4, 2, .nil, []⟩]⟩]

/-- The names of the specification's nested write: `root`, its type `ROOT_T`, the type `B_T`. -/
def specRoot : List UInt8 := [114, 111, 111, 116]

def specRootType : List UInt8 := [82, 79, 79, 84, 95, 84]

def specInnerType : List UInt8 := [66, 95, 84]

/-- The PLC of the specification's nested write: `root` is a `ROOT_T` of ten bytes, with `a : INT`
at `0` and `b : B_T` of eight bytes at `2`; `B_T` has `c : DINT` at `0` and `d : REAL` at `4`.
`GetDataTypeInfo` describes each type by its own sub-items, with no fields of their own, as the
client parses every reply (`dataTypeInfoOfReply_flat`). -/
def specLayoutPlc : Plc :=
  { symbol := fun n => if n = specRoot then some ⟨specRoot, specRootType, 10⟩ else none
    handle := fun k _ => some (UInt32.ofNat (1000 + k))
    uploadInfo := putUint32 0 ++ List.replicate 20 0
    upload := []
    dataTypeInfo := fun t =>
      if t = specRootType then
        some [⟨[97], [73, 78, 84], 0, 2, .nil, []⟩, ⟨[98], specInnerType, 2, 8, .nil, []⟩]
      else if t = specInnerType then
        some [⟨[99], [68, 73, 78, 84], 0, 4, .nil, []⟩, ⟨[100], [82, 69, 65, 76], 4, 4, .nil, []⟩]
      else none
    read := fun _ n => List.replicate n.toNat 0 }

/-- **The specification's nested write fails.** From a new session,
`WriteNestedField(root, [b, d], encode_f32(1.5))` fetches the fields of `ROOT_T`, finds `b`
among them with no fields of its own, does not find `d`, and fails: its last request is the
data type query, and nothing is written. -/
theorem nestedWrite_spec_layout_fails :
    (writeNestedField specLayoutPlc specRoot [[98], [100]] [0, 0, 192, 63] init).1 = none ∧
      (writeNestedField specLayoutPlc specRoot [[98], [100]] [0, 0, 192, 63] init).2.sent.getLast? =
        some (.dataTypeInfo specRootType) := by
  decide

/-! ## The fields `GetDataTypeInfo` returns are flat -/

lemma subItemFields_flat : ∀ (k : ℕ) (rest : List UInt8), ∀ f ∈ subItemFields k rest, f.fields = []
  | 0, _, _, h => absurd h (List.not_mem_nil _)
  | k + 1, rest, f, h => by
    unfold subItemFields at h
    dsimp only at h
    split_ifs at h <;> simp only [List.mem_cons, List.not_mem_nil] at h
    rcases h with rfl | h
    · rfl
    · exact subItemFields_flat k _ f h

/-- The fields `GetDataTypeInfo` returns, for any reply, carry no fields of their own. -/
lemma dataTypeInfoOfReply_flat {data : List UInt8} {fields : List StructField}
    (h : dataTypeInfoOfReply data = some fields) : ∀ f ∈ fields, f.fields = [] := by
  unfold dataTypeInfoOfReply at h
  dsimp only at h
  split_ifs at h <;> cases h
  · exact fun _ h => absurd h (List.not_mem_nil _)
  · exact subItemFields_flat _ _

/-- In fields with no fields of their own, no path of two or more names is found. -/
lemma findFieldByPathWithOffset_flat {fields : List StructField} (h : ∀ f ∈ fields, f.fields = [])
    (p q : List UInt8) (path : List (List UInt8)) (base : UInt32) :
    findFieldByPathWithOffset fields (p :: q :: path) base = none := by
  unfold findFieldByPathWithOffset
  cases hf : fields.find? (·.name == p) with
  | none => rfl
  | some f =>
    dsimp only
    rw [if_neg (List.cons_ne_nil q path), h f (List.mem_of_find?_eq_some hf)]
    unfold findFieldByPathWithOffset
    rfl

/-- A PLC whose `GetDataTypeInfo` answers are flat. -/
def Plc.FlatTypes (plc : Plc) : Prop :=
  ∀ t fields, plc.dataTypeInfo t = some fields → ∀ f ∈ fields, f.fields = []

/-- A PLC whose `GetDataTypeInfo` answers are what `Client.GetDataTypeInfo` parses out of some
reply. -/
def Plc.ParsedTypes (plc : Plc) : Prop :=
  ∀ t fields, plc.dataTypeInfo t = some fields → ∃ data, dataTypeInfoOfReply data = some fields

lemma Plc.ParsedTypes.flatTypes {plc : Plc} (h : plc.ParsedTypes) : plc.FlatTypes :=
  fun t fields ht => let ⟨_, hd⟩ := h t fields ht; dataTypeInfoOfReply_flat hd

/-- A cache whose `SymbolInfo`s hold only flat fields; a cache with no fields at all is one. -/
def State.FlatFields (s : State) : Prop := ∀ info ∈ s.heap, ∀ f ∈ info.fields, f.fields = []

section Flat

variable {plc : Plc} {s : State} {n : List UInt8}

lemma State.FlatFields.deref (hs : s.FlatFields) (p : ℕ) : ∀ f ∈ (s.deref p).fields, f.fields = [] := by
  unfold State.deref
  rw [List.getD_eq_getElem?_getD]
  cases hp : s.heap[p]? with
  | none => exact fun _ h => absurd h (List.not_mem_nil _)
  | some info => exact hs info (List.getElem?_mem hp)

lemma State.FlatFields.store (hs : s.FlatFields) (m : List UInt8) {info : SymbolInfo}
    (hi : ∀ f ∈ info.fields, f.fields = []) : (s.store m info).FlatFields := by
  intro i hmem
  rcases List.mem_append.mp hmem with h | h
  · exact hs i h
  · exact List.mem_singleton.mp h ▸ hi

lemma State.FlatFields.set (hs : s.FlatFields) (p : ℕ) {info : SymbolInfo}
    (hi : ∀ f ∈ info.fields, f.fields = []) : ∀ i ∈ s.heap.set p info, ∀ f ∈ i.fields, f.fields = [] :=
  fun i hmem => (List.mem_or_eq_of_mem_set hmem).elim (hs i) fun h => h ▸ hi

lemma State.FlatFields.getSymbol (hs : s.FlatFields) : (getSymbol plc n s).2.FlatFields := by
  unfold Goads.Session.getSymbol
  split
  · exact hs
  · split
    · exact hs
    · exact hs.store n fun _ h => absurd h (List.not_mem_nil _)

lemma State.FlatFields.getOrCreateHandle (hs : s.FlatFields) :
    (getOrCreateHandle plc n s).2.FlatFields := by
  have hf : (getOrCreateHandle.fetch plc n s).2.FlatFields := by
    unfold getOrCreateHandle.fetch
    dsimp only
    split
    · exact hs
    · split
      · exact hs.set _ (hs.deref _)
      · exact State.FlatFields.store hs n fun _ h => absurd h (List.not_mem_nil _)
  unfold Goads.Session.getOrCreateHandle
  split
  · split
    · exact hs
    · exact hf
  · exact hf

/-- The fields `WriteNestedField` works with are flat: they are the cached ones, or the PLC's. -/
lemma loadFields_flat (hplc : plc.FlatTypes) (hs : s.FlatFields) {p : ℕ} {fields : List StructField}
    (h : (loadFields plc n p s).1 = some fields) : ∀ f ∈ fields, f.fields = [] := by
  unfold loadFields at h
  dsimp only at h
  split at h
  · split at h
    · cases h
    · cases h
      exact hplc _ _ ‹_›
  · cases h
    exact hs.deref p

/-- **No nested write below the first level.** Against a PLC whose `GetDataTypeInfo` answers are
parsed replies, as the client's are, `Session.WriteNestedField` with a path of two or more names
fails from every state whose cache holds only flat fields, in particular from one with no cached
fields.

**Proof sketch.** Parsed fields are flat (`dataTypeInfoOfReply_flat`), so are the fields it
loads (`loadFields_flat`), and a flat field list holds no path of two names
(`findFieldByPathWithOffset_flat`). -/
theorem writeNestedField_deep_fails (hplc : plc.ParsedTypes) (hs : s.FlatFields) (a b : List UInt8)
    (path : List (List UInt8)) (d : List UInt8) :
    (writeNestedField plc n (a :: b :: path) d s).1 = none := by
  cases hw : (writeNestedField plc n (a :: b :: path) d s).1 with
  | none => rfl
  | some u =>
    obtain ⟨p, s₁, h, s₂, fields, payload, h₁, h₂, h₃, h₄, -⟩ := writeNestedField_sent hw
    have hf₁ : (getSymbol plc n s).2.FlatFields := hs.getSymbol
    rw [h₁] at hf₁
    have hf₂ : (getOrCreateHandle plc n s₁).2.FlatFields := hf₁.getOrCreateHandle
    rw [h₂] at hf₂
    have hflat := loadFields_flat hplc.flatTypes (show (s₂.send _).FlatFields from hf₂) h₃
    rw [writeBack, findFieldByPathWithOffset_flat hflat] at h₄
    cases h₄

end Flat

/-- The sub-items of `ROOT_T` and `B_T` as the PLC lays them out. -/
def specItemA : SubItem :=
  ⟨⟨48, 0, 0, 0, 2, 0, 0, 0, 1, 3, 0, 0, 0⟩, [97], [73, 78, 84], [], by decide, by decide, rfl, rfl,
    rfl⟩

def specItemB : SubItem :=
  ⟨⟨48, 0, 0, 0, 8, 2, 0, 0, 1, 3, 0, 0, 0⟩, [98], specInnerType, [], by decide, by decide, rfl, rfl,
    rfl⟩

def specItemC : SubItem :=
  ⟨⟨49, 0, 0, 0, 4, 0, 0, 0, 1, 4, 0, 0, 0⟩, [99], [68, 73, 78, 84], [], by decide, by decide, rfl,
    rfl, rfl⟩

def specItemD : SubItem :=
  ⟨⟨49, 0, 0, 0, 4, 4, 0, 0, 1, 4, 0, 0, 0⟩, [100], [82, 69, 65, 76], [], by decide, by decide, rfl,
    rfl, rfl⟩

/-- The replies describing `ROOT_T` and `B_T`, each by its two sub-items. -/
def specRootReply : DataTypeReply :=
  ⟨⟨0, 0, 0, 0, 10, 0, 0, 0, 6, 0, 0, 0, 2⟩, specRootType, [], [], [specItemA, specItemB], rfl, rfl,
    rfl, rfl, List.cons_ne_nil _ _⟩

def specInnerReply : DataTypeReply :=
  ⟨⟨0, 0, 0, 0, 8, 0, 0, 0, 3, 0, 0, 0, 2⟩, specInnerType, [], [], [specItemC, specItemD], rfl, rfl,
    rfl, rfl, List.cons_ne_nil _ _⟩

/-- `specLayoutPlc` answers each data type query with the parse of its reply. -/
lemma specLayoutPlc_parsedTypes : specLayoutPlc.ParsedTypes := by
  have hparse (d : DataTypeReply) : dataTypeInfoOfReply d.encode = some (d.items.map SubItem.field) :=
    by simpa using dataTypeInfoOfReply_encode d []
  intro t fields h
  simp only [specLayoutPlc] at h
  split_ifs at h <;> cases h
  · exact ⟨_, hparse specRootReply⟩
  · exact ⟨_, hparse specInnerReply⟩

/-- The specification's layout, as the PLC's replies describe it, with a new session. -/
theorem writeNestedField_deep_fails_spec_layout :
    specLayoutPlc.ParsedTypes ∧ init.FlatFields ∧
      (writeNestedField specLayoutPlc specRoot [[98], [100]] [0, 0, 192, 63] init).1 = none :=
  have hinit : init.FlatFields := fun _ h => absurd h (List.not_mem_nil _)
  ⟨specLayoutPlc_parsedTypes, hinit,
    writeNestedField_deep_fails specLayoutPlc_parsedTypes hinit _ _ _ _⟩

end Goads.Session
