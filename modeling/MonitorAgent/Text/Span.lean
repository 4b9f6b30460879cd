/-!
# Spans

A text is parted where a class of characters ends: what is taken lies in the class,
and what is left does not begin with it.
-/

namespace MonitorAgent
namespace Text

variable {p : Char → Bool} {a b s : List Char}

/-- The text does not begin with the class. -/
def Stops (p : Char → Bool) (s : List Char) : Prop :=
  ∀ c ∈ s.head?, p c = false

theorem stops_nil : Stops p [] := by
  intro c hc
  cases hc

theorem stops_cons {c : Char} : Stops p (c :: s) ↔ p c = false := by
  simp [Stops]

/-- The text begins outside of the class if its first part does, or has no character. -/
theorem stops_append (ha : Stops p a) (hb : a = [] → Stops p b) : Stops p (a ++ b) := by
  cases a with
  | nil => exact hb rfl
  | cons c a => exact ha

theorem takeWhile_of_stops (h : Stops p s) : s.takeWhile p = [] := by
  cases s with
  | nil => rfl
  | cons c s => simp [stops_cons.mp h]

theorem dropWhile_of_stops (h : Stops p s) : s.dropWhile p = s := by
  cases s with
  | nil => rfl
  | cons c s => simp [stops_cons.mp h]

theorem stops_dropWhile (p : Char → Bool) (s : List Char) : Stops p (s.dropWhile p) := by
  induction s with
  | nil => exact stops_nil
  | cons c s ih =>
      cases hc : p c with
      | true => simpa [hc] using ih
      | false => simpa [hc] using stops_cons.mpr hc

theorem takeWhile_span (ha : ∀ c ∈ a, p c = true) (hb : Stops p b) :
    (a ++ b).takeWhile p = a := by
  rw [List.takeWhile_append_of_pos ha, takeWhile_of_stops hb, List.append_nil]

theorem dropWhile_span (ha : ∀ c ∈ a, p c = true) (hb : Stops p b) :
    (a ++ b).dropWhile p = b := by
  rw [List.dropWhile_append_of_pos ha, dropWhile_of_stops hb]

theorem all_takeWhile (p : Char → Bool) (s : List Char) : ∀ c ∈ s.takeWhile p, p c = true := by
  induction s with
  | nil =>
      intro c hc
      cases hc
  | cons first s ih =>
      cases hfirst : p first with
      | true => simpa [hfirst] using ih
      | false => simp [hfirst]

end Text
end MonitorAgent
