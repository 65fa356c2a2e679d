import ClusterGateway.JsonPath.ObjectFilter
import ClusterGateway.Proofs.Text.Blanks

/-!
# The spellings of a path

A path has one form, which starts with `$` and which is its own form.  Texts of the same form make
the same choice (`ObjectFilter.SameChoice`): a path with braces around it, and a path with or
without the `$` and the dot at the start, as long as the braces are not taken for those that enclose
the path.

* `ObjectFilter.normalizeChars_wrapped` : **braces and blanks around a path are not seen**.
* `ObjectFilter.normalizeChars_bare` : **a path needs neither the `$` nor the dot at the start**,
  unless braces enclose it.
* `ObjectFilter.spellings_agree` : **the form of a text, and which texts are other spellings of the
  same path**.
-/

namespace ClusterGateway

namespace ObjectFilter

open Text (IsSpace IsTrimmed StartsPlain)

/-! ### Characters -/

section Characters

variable {cs : List Char}

/-- Braces enclose the text. -/
def Enclosed (cs : List Char) : Prop := ∃ inner, cs = '\x7b' :: (inner ++ ['\x7d'])

/-- The text begins with none of the characters that a path in its form has at the start, nor with a
blank. -/
def StartsBare (cs : List Char) : Prop :=
  ∀ c ∈ cs.head?, c ≠ '$' ∧ c ≠ '.' ∧ c ≠ '[' ∧ Text.isBlank c = false

theorem unbrace_enclosed (inner : List Char) : unbrace ('\x7b' :: (inner ++ ['\x7d'])) = inner := by
  simp [unbrace]

theorem unbrace_of_not_enclosed (h : ¬Enclosed cs) : unbrace cs = cs := by
  unfold unbrace
  split
  · split
    · rename_i rest hlast
      obtain ⟨inner, rfl⟩ := List.getLast?_eq_some_iff.1 hlast
      exact absurd ⟨inner, rfl⟩ h
    · rfl
  · rfl

theorem not_enclosed_cons {c : Char} (h : c ≠ '\x7b') : ¬Enclosed (c :: cs) := by
  rintro ⟨inner, hinner⟩
  exact h (List.cons.inj hinner).1

theorem root_of_startsBare (h : StartsBare cs) : root cs = '$' :: '.' :: cs := by
  unfold root
  split
  · exact absurd rfl (h '$' rfl).1
  · exact absurd rfl (h '.' rfl).2.1
  · exact absurd rfl (h '[' rfl).2.2.1
  · rfl

theorem root_cases (cs : List Char) :
    (∃ rest, cs = '$' :: rest ∧ root cs = cs) ∨ root cs = '$' :: cs ∨ root cs = '$' :: '.' :: cs := by
  unfold root
  split
  · exact .inl ⟨_, rfl, rfl⟩
  · exact .inr (.inl rfl)
  · exact .inr (.inl rfl)
  · exact .inr (.inr rfl)

theorem exists_root (cs : List Char) : ∃ rest, root cs = '$' :: rest := by
  rcases root_cases cs with ⟨rest, hrest, hroot⟩ | hroot | hroot
  · exact ⟨rest, hroot.trans hrest⟩
  · exact ⟨_, hroot⟩
  · exact ⟨_, hroot⟩

theorem isTrimmed_root (h : IsTrimmed cs) : IsTrimmed (root cs) := by
  have hdollar : Text.isBlank '$' = false := by decide
  have hdot : Text.isBlank '.' = false := by decide
  rcases root_cases cs with ⟨_, -, hroot⟩ | hroot | hroot
  · rwa [hroot]
  · rw [hroot]
    exact h.cons hdollar
  · rw [hroot]
    exact (h.cons hdot).cons hdollar

theorem isTrimmed_normalizeChars (cs : List Char) : IsTrimmed (normalizeChars cs) :=
  isTrimmed_root (Text.isTrimmed_trimChars _)

theorem exists_normalizeChars (cs : List Char) : ∃ rest, normalizeChars cs = '$' :: rest :=
  exists_root _

theorem normalizeChars_of_dollar (h : IsTrimmed ('$' :: cs)) :
    normalizeChars ('$' :: cs) = '$' :: cs := by
  rw [normalizeChars, h.trimChars_eq, unbrace_of_not_enclosed (not_enclosed_cons (by decide)),
    h.trimChars_eq, root]

theorem normalizeChars_normalizeChars (cs : List Char) :
    normalizeChars (normalizeChars cs) = normalizeChars cs := by
  have htrimmed := isTrimmed_normalizeChars cs
  obtain ⟨rest, hrest⟩ := exists_normalizeChars cs
  rw [hrest] at htrimmed ⊢
  exact normalizeChars_of_dollar htrimmed

theorem normalizeChars_of_not_enclosed (h : ¬Enclosed (Text.trimChars cs)) :
    normalizeChars cs = root (Text.trimChars cs) := by
  rw [normalizeChars, unbrace_of_not_enclosed h, Text.trimChars_trimChars]

/-- **Braces and blanks around a path are not seen.** -/
theorem normalizeChars_wrapped {before inside outside after : List Char}
    (hbefore : IsSpace before) (hinside : IsSpace inside) (houtside : IsSpace outside)
    (hafter : IsSpace after) (h : ¬Enclosed (Text.trimChars cs)) :
    normalizeChars (before ++ '\x7b' :: (inside ++ cs ++ outside ++ ['\x7d']) ++ after) =
      normalizeChars cs := by
  have hbraces : IsTrimmed ('\x7b' :: (inside ++ cs ++ outside ++ ['\x7d'])) := by
    constructor
    · intro c hc
      exact Option.some.inj hc ▸ rfl
    · intro c hc
      rw [List.getLast?_cons, List.getLast?_concat] at hc
      exact Option.some.inj hc ▸ rfl
  rw [normalizeChars_of_not_enclosed h, normalizeChars, Text.trimChars_surround hbefore hafter,
    hbraces.trimChars_eq, unbrace_enclosed, Text.trimChars_surround hinside houtside]

theorem StartsBare.startsPlain (h : StartsBare cs) : StartsPlain cs := fun c hc => (h c hc).2.2.2

theorem StartsBare.trimChars (h : StartsBare cs) : StartsBare (Text.trimChars cs) := by
  intro c hc
  have hplain := h.startsPlain
  cases cs with
  | nil => cases hc
  | cons d ds =>
    rw [Text.trimChars_cons (hplain d rfl)] at hc
    exact h c hc

/-- **A path needs neither the `$` nor the dot at the start**, unless braces enclose it. -/
theorem normalizeChars_bare (h : StartsBare cs) (hbraces : ¬Enclosed (Text.trimChars cs)) :
    normalizeChars cs = '$' :: '.' :: Text.trimChars cs := by
  rw [normalizeChars_of_not_enclosed hbraces, root_of_startsBare h.trimChars]

theorem trimChars_dot (h : StartsBare cs) :
    Text.trimChars ('.' :: cs) = '.' :: Text.trimChars cs := by
  rw [Text.trimChars_cons (by decide), Text.trimChars_of_startsPlain h.startsPlain]

theorem normalizeChars_dot (h : StartsBare cs) :
    normalizeChars ('.' :: cs) = '$' :: '.' :: Text.trimChars cs := by
  have hbraces : ¬Enclosed (Text.trimChars ('.' :: cs)) := by
    rw [trimChars_dot h]
    exact not_enclosed_cons (by decide)
  rw [normalizeChars_of_not_enclosed hbraces, trimChars_dot h, root]

theorem normalizeChars_dollar_dot (h : StartsBare cs) :
    normalizeChars ('$' :: '.' :: cs) = '$' :: '.' :: Text.trimChars cs := by
  have hdot : StartsPlain ('.' :: cs) := fun c hc => Option.some.inj hc ▸ rfl
  have htrim : Text.trimChars ('$' :: '.' :: cs) = '$' :: '.' :: Text.trimChars cs := by
    rw [Text.trimChars_cons (by decide), ← Text.trimChars_of_startsPlain hdot, trimChars_dot h]
  have hbraces : ¬Enclosed (Text.trimChars ('$' :: '.' :: cs)) := by
    rw [htrim]
    exact not_enclosed_cons (by decide)
  rw [normalizeChars_of_not_enclosed hbraces, htrim, root]

theorem length_root_le (cs : List Char) : (root cs).length ≤ cs.length + 2 := by
  rcases root_cases cs with ⟨_, -, hroot⟩ | hroot | hroot <;> simp [hroot]

theorem normalizeChars_ne_of_enclosed (h : Enclosed (Text.trimChars cs)) :
    normalizeChars cs ≠ '$' :: '.' :: Text.trimChars cs := by
  obtain ⟨inner, hinner⟩ := h
  intro heq
  have hlength := congrArg List.length heq
  have hle : (Text.trimChars inner).length ≤ inner.length := (Text.trimChars_sublist _).length_le
  have hroot := length_root_le (Text.trimChars inner)
  rw [normalizeChars, hinner, unbrace_enclosed] at hlength
  simp only [List.length_cons, List.length_append, List.length_nil] at hlength
  omega

end Characters

/-! ### Texts -/

variable {s t : String}

theorem toList_normalize (s : String) : (normalize s).toList = normalizeChars s.toList :=
  String.toList_ofList

theorem normalize_eq_iff : normalize s = normalize t ↔
    normalizeChars s.toList = normalizeChars t.toList := by
  rw [← toList_normalize, ← toList_normalize, String.toList_inj]

/-- Two texts are spellings of one path: they have one form, and both are refused or both make the
same choice. -/
structure SameChoice (s t : String) : Prop where
  /-- The form is the same. -/
  form : normalize s = normalize t
  /-- The choice is the same, or there is none. -/
  choice : (parse s).toOption = (parse t).toOption

theorem sameChoice_iff : SameChoice s t ↔ normalizeChars s.toList = normalizeChars t.toList := by
  rw [← normalize_eq_iff]
  constructor
  · exact SameChoice.form
  · intro h
    refine ⟨h, ?_⟩
    rw [parse, parse, h]
    cases JsonPath.Query.parse? (normalize t) <;> rfl

/-- What holds of a text as the spelling of a path. -/
structure HasForm (s : String) : Prop where
  /-- The form starts with `$`. -/
  rooted : ∃ rest, normalize s = "$" ++ rest
  /-- The form is its own form. -/
  settled : normalize (normalize s) = normalize s
  /-- Unless braces enclose the trimmed text, braces around the text make another spelling, with any
  blanks inside and outside of them. -/
  wrapped (before inside outside after : String) : IsSpace before.toList → IsSpace inside.toList →
    IsSpace outside.toList → IsSpace after.toList → ¬Enclosed (Text.trim s).toList →
    SameChoice (before ++ "\x7b" ++ inside ++ s ++ outside ++ "\x7d" ++ after) s
  /-- If the text starts neither with `$`, a dot or a bracket nor with a blank, it has the same
  spellings with `$.` and with a dot in front.  They are spellings of the text itself just if no
  braces enclose it when it is trimmed. -/
  dotted : StartsBare s.toList → SameChoice ("$." ++ s) ("." ++ s) ∧
    (SameChoice ("." ++ s) s ↔ ¬Enclosed (Text.trim s).toList)

/-- **The spellings of a path agree.** -/
theorem spellings_agree (s : String) : HasForm s where
  rooted := by
    obtain ⟨rest, hrest⟩ := exists_normalizeChars s.toList
    refine ⟨String.ofList rest, ?_⟩
    rw [← String.toList_inj, toList_normalize, hrest]
    simp
  settled := by
    rw [normalize_eq_iff, toList_normalize, normalizeChars_normalizeChars]
  wrapped before inside outside after hbefore hinside houtside hafter h := by
    rw [Text.toList_trim] at h
    rw [sameChoice_iff, ← normalizeChars_wrapped hbefore hinside houtside hafter h]
    simp [String.toList_append]
  dotted h := by
    have hdot : normalizeChars ("." ++ s).toList = '$' :: '.' :: Text.trimChars s.toList := by
      rw [String.toList_append]
      exact normalizeChars_dot h
    have hdollar : normalizeChars ("$." ++ s).toList = '$' :: '.' :: Text.trimChars s.toList := by
      rw [String.toList_append]
      exact normalizeChars_dollar_dot h
    -- both spellings have the form with the dot behind the dollar sign
    rw [sameChoice_iff, sameChoice_iff, hdot, hdollar, Text.toList_trim]
    refine ⟨rfl, ?_, ?_⟩
    · intro heq henclosed
      exact normalizeChars_ne_of_enclosed henclosed heq.symm
    · intro hbraces
      exact (normalizeChars_bare h hbraces).symm

/-- Spellings with blanks in all places. -/
theorem spellings_agree_items :
    ¬Enclosed (Text.trim "items[*] ").toList ∧ StartsBare "items[*] ".toList ∧
      SameChoice (" \x7b\t" ++ "items[*] " ++ "\n\x7d ") "items[*] " ∧
      SameChoice "$.items[*] " ".items[*] " ∧ SameChoice ".items[*] " "items[*] " := by
  have hform := spellings_agree "items[*] "
  have hbraces : ¬Enclosed (Text.trim "items[*] ").toList := not_enclosed_cons (by decide)
  have hbare : StartsBare "items[*] ".toList := fun c hc => Option.some.inj hc ▸ by decide
  have hspace {w : String} (hw : w.toList.all Text.isBlank = true) : IsSpace w.toList :=
    List.all_eq_true.1 hw
  have hwrapped := hform.wrapped " " "\t" "\n" " " (hspace rfl) (hspace rfl) (hspace rfl)
    (hspace rfl) hbraces
  obtain ⟨hdollar, hdot⟩ := hform.dotted hbare
  exact ⟨hbraces, hbare, hwrapped, hdollar, hdot.2 hbraces⟩

/-- Braces with a blank behind them do not enclose the text as it stands.  But they are gone in its
form, and stay where a dot is put in front. -/
theorem braces_before_blank :
    StartsBare "\x7bitems[*]\x7d ".toList ∧ ¬Enclosed "\x7bitems[*]\x7d ".toList ∧
      ¬Enclosed ".\x7bitems[*]\x7d ".toList ∧ ¬Enclosed "$.\x7bitems[*]\x7d ".toList ∧
      normalize "\x7bitems[*]\x7d " = "$.items[*]" ∧
      normalize ".\x7bitems[*]\x7d " = "$.\x7bitems[*]\x7d" ∧
      ¬SameChoice ".\x7bitems[*]\x7d " "\x7bitems[*]\x7d " ∧
      (parse "\x7bitems[*]\x7d ").toOption.isSome = true ∧
      (parse ".\x7bitems[*]\x7d ").toOption.isSome = false := by
  have hlast {cs : List Char} (h : cs.getLast? = some ' ') : ¬Enclosed cs := by
    rintro ⟨inner, rfl⟩
    rw [List.getLast?_cons, List.getLast?_concat] at h
    exact absurd (Option.some.inj h) (by decide)
  have hbare : StartsBare "\x7bitems[*]\x7d ".toList := fun c hc => Option.some.inj hc ▸ by decide
  have hchosen : (parse "\x7bitems[*]\x7d ").toOption.isSome = true := by decide +kernel
  have hrefused : (parse ".\x7bitems[*]\x7d ").toOption.isSome = false := by decide +kernel
  refine ⟨hbare, hlast rfl, hlast rfl, hlast rfl, by decide, by decide, ?_, hchosen, hrefused⟩
  intro h
  rw [h.choice, hchosen] at hrefused
  cases hrefused

end ObjectFilter

end ClusterGateway
