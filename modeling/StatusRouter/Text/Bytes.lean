import StatusRouter.Text.Quoted

/-!
# Places counted in bytes

A part of a text may be named by two places that are counted in bytes of the UTF-8 form.  A place
inside a character is no place to cut at, and is reported with the character around it.
-/

namespace StatusRouter.Text

/-- The two ends of a part of a text. -/
inductive Edge where
  | first
  | last
  deriving DecidableEq

/-- The word for an end. -/
def Edge.text : Edge → String
  | first => "start"
  | last => "end"

/-- A place that lies inside a character. -/
structure SplitCharacter where
  edge : Edge
  place : Nat
  character : Char
  /-- The place where the character begins. -/
  origin : Nat
  deriving DecidableEq

/-- The text of the report. -/
def SplitCharacter.message (split : SplitCharacter) : String :=
  let c := split.character
  split.edge.text ++ " byte index " ++ toString split.place ++
    " is not a char boundary; it is inside '" ++ String.ofList (quotedChar c) ++ "' (bytes " ++
    toString split.origin ++ ".." ++ toString (split.origin + c.utf8Size) ++ " of string)"

/-- The text before and behind so many bytes.  In place of a cut through a character there is the
character, and where it begins; the text itself begins at `origin`. -/
def cut (origin : Nat) : List Char → Nat → Except (Char × Nat) (List Char × List Char)
  | s, 0 => .ok ([], s)
  | [], _ => .ok ([], [])
  | c :: s, n =>
    if n < c.utf8Size then .error (c, origin)
    else do
      let (front, back) ← cut (origin + c.utf8Size) s (n - c.utf8Size)
      return (c :: front, back)

/-- The text from a place on. -/
def sliceFrom (s : List Char) (place : Nat) : Except SplitCharacter (List Char) :=
  match cut 0 s place with
  | .ok (_, back) => .ok back
  | .error (c, origin) => .error ⟨.first, place, c, origin⟩

/-- The text from one place to another one. -/
def slice (s : List Char) (first last : Nat) : Except SplitCharacter (List Char) := do
  let back ← sliceFrom s first
  match cut first back (last - first) with
  | .ok (front, _) => return front
  | .error (c, origin) => throw ⟨.last, last, c, origin⟩

/-- The parts in front of a cut and behind it make up the text. -/
theorem append_of_cut_eq_ok {origin n : Nat} {s front back : List Char}
    (h : cut origin s n = .ok (front, back)) : front ++ back = s := by
  induction s generalizing origin n front back with
  | nil => cases n <;> simp_all [cut]
  | cons c s ih =>
    cases n with
    | zero => simp_all [cut]
    | succ n =>
      simp only [cut] at h
      split at h
      · cases h
      · cases hc : cut (origin + c.utf8Size) s (n + 1 - c.utf8Size) with
        | error e => simp [hc, bind, Except.bind] at h
        | ok parts =>
          simp only [hc, bind, Except.bind, pure, Except.pure, Except.ok.injEq,
            Prod.mk.injEq] at h
          obtain ⟨rfl, rfl⟩ := h
          simp [ih hc]

end StatusRouter.Text
