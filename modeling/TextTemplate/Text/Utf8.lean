/-!
# Byte offsets

Offsets into a text count the bytes of its UTF-8 encoding.

## Main definitions

* `utf8Length`: the number of bytes of some characters.
* `takeBytes`: the characters before an offset.

## Main results

* `takeBytes_utf8Length`: the characters before the end of a front part are that part.
-/

namespace TextTemplate

/-- The number of bytes of some characters. -/
def utf8Length : List Char → Nat
  | [] => 0
  | c :: cs => c.utf8Size + utf8Length cs

/-- The characters that start before an offset. -/
def takeBytes : Nat → List Char → List Char
  | _, [] => []
  | 0, _ => []
  | n + 1, c :: cs => c :: takeBytes (n + 1 - c.utf8Size) cs

@[simp] theorem utf8Length_nil : utf8Length [] = 0 := rfl

@[simp] theorem utf8Length_cons (c : Char) (cs : List Char) :
    utf8Length (c :: cs) = c.utf8Size + utf8Length cs := rfl

@[simp] theorem utf8Length_append (cs ds : List Char) :
    utf8Length (cs ++ ds) = utf8Length cs + utf8Length ds := by
  induction cs with
  | nil => simp
  | cons c cs ih => rw [List.cons_append, utf8Length_cons, ih, utf8Length_cons, Nat.add_assoc]

theorem takeBytes_zero (cs : List Char) : takeBytes 0 cs = [] := by
  cases cs <;> rfl

/-- The characters before the end of a front part are that part. -/
theorem takeBytes_utf8Length (cs rest : List Char) :
    takeBytes (utf8Length cs) (cs ++ rest) = cs := by
  induction cs with
  | nil => exact takeBytes_zero rest
  | cons c cs ih =>
    obtain ⟨n, hn⟩ : ∃ n, utf8Length (c :: cs) = n + 1 :=
      Nat.exists_eq_add_one.2 (by have := c.utf8Size_pos; simp; omega)
    have hrest : n + 1 - c.utf8Size = utf8Length cs := by
      rw [← hn, utf8Length_cons]
      omega
    rw [hn, List.cons_append, takeBytes, hrest, ih]

end TextTemplate
