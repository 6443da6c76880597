/-!
# Pieces of a text

A text cut at its separators. Between two separators side by side stands an empty piece, so there
is one piece more than there are separators. What stands before the first separator and what follows
it are known from the text.
-/
namespace ServiceHealth.Text

/-- The pieces between the characters that satisfy a test. -/
def pieces (isSeparator : Char → Bool) : List Char → List (List Char)
  | [] => [[]]
  | c :: rest =>
      if isSeparator c then [] :: pieces isSeparator rest
      else
        match pieces isSeparator rest with
        | piece :: more => (c :: piece) :: more
        | [] => [[c]]

theorem pieces_of_none {isSeparator : Char → Bool} {cs : List Char}
    (h : ∀ c ∈ cs, isSeparator c = false) : pieces isSeparator cs = [cs] := by
  induction cs with
  | nil => rfl
  | cons c cs ih =>
      have hrest := ih fun x hx => h x (List.mem_cons_of_mem c hx)
      simp [pieces, h c List.mem_cons_self, hrest]

theorem pieces_append {isSeparator : Char → Bool} {cs : List Char} {s : Char}
    (h : ∀ c ∈ cs, isSeparator c = false) (hs : isSeparator s) (rest : List Char) :
    pieces isSeparator (cs ++ s :: rest) = cs :: pieces isSeparator rest := by
  induction cs with
  | nil => simp [pieces, hs]
  | cons c cs ih =>
      have hrest := ih fun x hx => h x (List.mem_cons_of_mem c hx)
      simp [pieces, h c List.mem_cons_self, hrest]

variable {α : Type} {p : α → Bool}

/-- Where the first element that passes a test stands, is the same however the list is put
together. -/
theorem append_cons_inj {a b rest more : List α} {x y : α} (ha : ∀ c ∈ a, p c = false)
    (hb : ∀ c ∈ b, p c = false) (hx : p x) (hy : p y) (h : a ++ x :: rest = b ++ y :: more) :
    a = b ∧ x = y ∧ rest = more := by
  induction a generalizing b with
  | nil =>
    cases b with
    | nil => exact ⟨rfl, List.cons.inj h⟩
    | cons c b =>
      obtain ⟨rfl, -⟩ := List.cons.inj h
      have hnot := hb x List.mem_cons_self
      rw [hx] at hnot
      contradiction
  | cons c a ih =>
    cases b with
    | nil =>
      obtain ⟨rfl, -⟩ := List.cons.inj h
      have hnot := ha c List.mem_cons_self
      rw [hy] at hnot
      contradiction
    | cons d b =>
      obtain ⟨rfl, hrest⟩ := List.cons.inj h
      obtain ⟨rfl, hsame⟩ := ih (fun e he => ha e (List.mem_cons_of_mem c he))
        (fun e he => hb e (List.mem_cons_of_mem c he)) hrest
      exact ⟨rfl, hsame⟩

end ServiceHealth.Text
