import Pantry.Machine.Memory

namespace Machine

/-- A member of a structure or an element of an array: its width in bits and its value. -/
structure Field where
  width : Nat
  value : BitVec width

namespace Field

def size (f : Field) : Nat := f.width / 8

def bytes (f : Field) : List Byte := leBytes f.size f.value.toNat

def image (fields : List Field) : List Byte := fields.flatMap bytes

def sizes (fields : List Field) : Nat := (fields.map size).sum

def array {width : Nat} (values : List (BitVec width)) : List Field := values.map (Field.mk width)

theorem bytes_length (f : Field) : f.bytes.length = f.size := leBytes_length _ _

@[simp] theorem image_length (fields : List Field) : (image fields).length = sizes fields := by
  simp only [image, List.length_flatMap, sizes, bytes_length]

theorem image_cons (f : Field) (rest : List Field) : image (f :: rest) = f.bytes ++ image rest := rfl

theorem sizes_cons (f : Field) (rest : List Field) : sizes (f :: rest) = f.size + sizes rest := rfl

theorem image_member {fields : List Field} {i : Nat} {f : Field} (member : fields[i]? = some f) :
    sizes (fields.take i) + f.size ≤ sizes fields ∧
      ((image fields).drop (sizes (fields.take i))).take f.size = f.bytes := by
  induction fields generalizing i with
  | nil => cases member
  | cons first rest ih =>
    rw [sizes_cons, image_cons]
    cases i with
    | zero =>
      cases member
      refine ⟨by simp only [List.take_zero, sizes, List.map_nil, List.sum_nil]; omega, ?_⟩
      exact List.take_left' (bytes_length f)
    | succ i =>
      obtain ⟨inside, same⟩ := ih member
      rw [List.take_succ_cons, sizes_cons]
      refine ⟨by omega, ?_⟩
      rw [← bytes_length first, List.drop_length_add_append]
      exact same

theorem sizes_array {width : Nat} (values : List (BitVec width)) :
    sizes (array values) = width / 8 * values.length := by
  induction values with
  | nil => rfl
  | cons value rest ih =>
    have front : sizes (array (value :: rest)) = width / 8 + sizes (array rest) := rfl
    rw [front, ih, List.length_cons, Nat.mul_succ, Nat.add_comm]

end Field

namespace Memory

variable {w : Nat}

/-- The i-th member of a structure that was stored is read back from its place. -/
theorem read_image (m : Memory w) (p : BitVec w) {fields : List Field} {i off width : Nat} {value : BitVec width}
    (bound : Field.sizes fields ≤ 2 ^ w) (whole : 8 ∣ width) (place : Field.sizes (fields.take i) = off)
    (member : fields[i]? = some ⟨width, value⟩) :
    (m.store p (Field.image fields)).read width p off = value := by
  obtain ⟨inside, same⟩ := Field.image_member member
  rw [← Field.image_length] at bound
  rw [place] at inside same
  rw [← Field.image_length fields] at inside
  have content := bytes_store m p inside bound
  rw [same] at content
  have power : 256 ^ (width / 8) = 2 ^ width := by
    rw [show 256 = 2 ^ 8 from rfl, ← Nat.pow_mul, Nat.mul_div_cancel' whole]
  have bytes : (m.store p (Field.image fields)).bytes (p + BitVec.ofNat w off) (width / 8) =
      leBytes (width / 8) value.toNat := content
  unfold read
  rw [bytes, leValue_leBytes, power, Nat.mod_eq_of_lt value.isLt, BitVec.ofNat_toNat, BitVec.setWidth_eq]

theorem read_array (m : Memory w) (p : BitVec w) {width i : Nat} {values : List (BitVec width)} {value : BitVec width}
    (bound : width / 8 * values.length ≤ 2 ^ w) (whole : 8 ∣ width) (member : values[i]? = some value) :
    (m.store p (Field.image (Field.array values))).read width p (width / 8 * i) = value := by
  have present : i < values.length := (List.getElem?_eq_some_iff.mp member).1
  have place : Field.sizes ((Field.array values).take i) = width / 8 * i := by
    rw [Field.array, ← List.map_take]
    change Field.sizes (Field.array _) = _
    rw [Field.sizes_array, List.length_take, Nat.min_eq_left (Nat.le_of_lt present)]
  have found : (Field.array values)[i]? = some ⟨width, value⟩ := by
    rw [Field.array, List.getElem?_map, member]
    rfl
  exact read_image m p (by rwa [Field.sizes_array]) whole place found

end Memory

end Machine
