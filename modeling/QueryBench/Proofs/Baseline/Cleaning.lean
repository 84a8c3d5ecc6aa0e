import QueryBench.Baseline.Keyed
import QueryBench.Baseline.Positional
import QueryBench.Proofs.Outcome
import QueryBench.Proofs.Text.Search

/-!
# Cleaning predictions

A method writes its query, some semicolons, a mark and the name of a database. The mark starts with a
tab, so it is first found behind a query without tabs, whatever the name is, and both ways of cleaning
give the query back. What the positional way leaves has neither mark nor semicolon in it and no blanks
around it, so cleaning it again changes nothing.

Main definitions: `Baseline.IsQuery`, `Baseline.tagged`. Main statement:
`Baseline.cleaning_undoes_tagging`.
-/
set_option autoImplicit false

namespace QueryBench

/-! ## Tagged queries -/

namespace Baseline

/-- A query as a method writes it: on one line, without tabs, semicolons and blanks around it. -/
structure IsQuery (q : Text) : Prop where
  nonempty : q ≠ []
  trimmed : Text.trim q = q
  tab : .char '\t' ∉ q
  newline : .char '\n' ∉ q
  semicolon : .char ';' ∉ q

/-- A query with semicolons behind it, and behind them the mark and a name. -/
def tagged (q : Text) (semicolons : Nat) (name : Text) : Text :=
  q ++ Text.replicate semicolons ';' ++ "\t----- bird -----\t" ++ name

section
variable {q : Text}

theorem not_mem_ended {g : Glyph} (hq : g ∉ q) (hg : g ≠ .char ';') (k : Nat) :
    g ∉ q ++ Text.replicate k ';' := by
  rw [List.mem_append, not_or, Text.replicate, List.mem_replicate]
  exact ⟨hq, fun h => hg h.2⟩

/-- Semicolons behind a query are no blanks. -/
theorem IsQuery.trim_ended (hq : IsQuery q) (k : Nat) :
    Text.trim (q ++ Text.replicate k ';') = q ++ Text.replicate k ';' := by
  obtain ⟨hfirst, hlast⟩ := Text.trim_eq_self_iff.1 hq.trimmed
  refine Text.trim_eq_self_iff.2 ⟨?_, ?_⟩
  · rwa [List.head?_append_of_ne_nil _ hq.nonempty]
  · cases k with
    | zero => simpa [Text.replicate] using hlast
    | succ k =>
      rw [Text.replicate, List.replicate_succ', ← List.append_assoc, List.getLast?_concat]
      rintro g ⟨⟩
      decide

theorem IsQuery.dropEndWhile_ended (hq : IsQuery q) (k : Nat) :
    Text.dropEndWhile (· = .char ';') (q ++ Text.replicate k ';') = q := by
  induction k with
  | zero =>
    rw [Text.replicate, List.replicate_zero, List.append_nil, Text.dropEndWhile_eq,
      List.rdropWhile_eq_self_iff]
    intro hne hlast
    exact hq.semicolon (by simpa using of_decide_eq_true hlast ▸ List.getLast_mem hne)
  | succ k ih =>
    rw [Text.replicate, List.replicate_succ', ← List.append_assoc,
      Text.dropEndWhile_concat (by decide)]
    exact ih

theorem IsQuery.before_semicolon (hq : IsQuery q) (k : Nat) :
    Text.before ";" (q ++ Text.replicate k ';') = q := by
  cases k with
  | zero =>
    have habsent : Text.contains ";" q = false := by
      rw [Bool.eq_false_iff, ne_eq, Text.contains_iff]
      exact fun h => hq.semicolon (h.subset List.mem_cons_self)
    simpa [Text.replicate] using Text.before_of_not_contains habsent
  | succ k =>
    have hcut := Text.cut?_append hq.semicolon [] (Text.replicate k ';')
    unfold Text.before
    rw [Text.replicate, List.replicate_succ]
    exact hcut ▸ rfl

/-- The mark is first found behind the query and its semicolons. -/
theorem IsQuery.cut?_tagged (hq : IsQuery q) (k : Nat) (needle rest : Text) {name : Text}
    (hneedle : .char '\t' :: needle ++ rest = "\t----- bird -----\t" ++ name) :
    Text.cut? (.char '\t' :: needle) (tagged q k name) = some (q ++ Text.replicate k ';', rest) := by
  rw [tagged, List.append_assoc _ (Text.ofString _) name, ← hneedle]
  exact Text.cut?_append (not_mem_ended hq.tab (by decide) k) needle rest

theorem Keyed.clean_tagged (hq : IsQuery q) (k : Nat) (name : Text) :
    Keyed.clean (.text (tagged q k name)) = q := by
  have hbefore : Text.before mark (tagged q k name) = q ++ Text.replicate k ';' := by
    have hcut := hq.cut?_tagged k "----- bird -----" ("\t" ++ name) rfl
    unfold Text.before
    exact hcut ▸ rfl
  rw [Keyed.clean, hbefore, Text.replaceChar_of_not_mem (not_mem_ended hq.newline (by decide) k),
    hq.trim_ended]
  exact hq.dropEndWhile_ended k

/-! ## Cutting at separators -/

namespace Positional

theorem cutAt_text {separator s : Text} (h : Text.contains separator s = false → Text.trim s = s) :
    cutAt separator (.text s) = .ok (.text (Text.trim (Text.before separator s))) := by
  cases hhas : Text.contains separator s with
  | true =>
    unfold cutAt
    rw [Doc.has, hhas]
    rfl
  | false =>
    rw [Text.before_of_not_contains hhas, h hhas]
    unfold cutAt
    rw [Doc.has, hhas]
    rfl

theorem clean_tagged (hq : IsQuery q) (k : Nat) (name : Text) :
    clean (.text (tagged q k name)) = .ok q := by
  have hcut : Text.cut? (mark ++ "\t") (tagged q k name) = some (q ++ Text.replicate k ';', name) :=
    hq.cut?_tagged k "----- bird -----\t" name rfl
  have hfirst : cutAt (mark ++ "\t") (.text (tagged q k name)) =
      .ok (.text (q ++ Text.replicate k ';')) := by
    rw [cutAt_text fun h => ?_]
    · rw [Text.before, hcut, hq.trim_ended]
    · rw [Text.contains, hcut] at h
      cases h
  have hsecond : cutAt ";" (.text (q ++ Text.replicate k ';')) = .ok (.text q) := by
    rw [cutAt_text fun _ => hq.trim_ended k, hq.before_semicolon, hq.trimmed]
  have hvoid : (Doc.text (tagged q k name)).isVoid = false := by
    simp [Doc.isVoid, tagged, hq.nonempty]
  unfold clean
  rw [hvoid, if_neg (by decide), hfirst, ok_bind, hsecond, ok_bind, Doc.textFor, ok_bind, hq.trimmed]
  rfl

/-- What is left of a text at a separator is a part of it without the separator. -/
theorem cutAt_eq_text {separator s : Text} {d : Doc} (hne : separator ≠ [])
    (h : cutAt separator d = .ok (.text s)) :
    ∃ whole, d = .text whole ∧ s <:+: whole ∧ ¬ separator <:+: s := by
  obtain ⟨found, hfound, h⟩ := ok_of_bind h
  cases found with
  | true =>
    obtain ⟨whole, hwhole, h⟩ := ok_of_bind h
    cases d with
    | text t =>
      cases hwhole
      cases h
      have htrim := Text.isInfix_trim (Text.before separator whole)
      exact ⟨whole, rfl, htrim.trans (Text.isInfix_before separator whole),
        fun hpart => Text.not_infix_before hne whole (hpart.trans htrim)⟩
    | _ => cases hwhole
  | false =>
    cases h
    refine ⟨s, rfl, List.infix_refl s, fun hpart => ?_⟩
    rw [Doc.has, Text.contains_iff.2 hpart] at hfound
    cases hfound

/-- What is neither empty nor in need of cleaning stays as it is. -/
theorem clean_of_clean {s : Text} (hne : s ≠ []) (hmark : ¬ (mark ++ "\t" : Text) <:+: s)
    (hsemicolon : ¬ (";" : Text) <:+: s) (htrim : Text.trim s = s) : clean (.text s) = .ok s := by
  have hkeeps {separator : Text} (habsent : ¬ separator <:+: s) :
      cutAt separator (.text s) = .ok (.text s) := by
    rw [← Text.contains_iff, Bool.not_eq_true] at habsent
    rw [cutAt_text fun _ => htrim, Text.before_of_not_contains habsent, htrim]
  have hvoid : (Doc.text s).isVoid = false := by simpa [Doc.isVoid] using hne
  unfold clean
  rw [hvoid, if_neg (by decide), hkeeps hmark, ok_bind, hkeeps hsemicolon, ok_bind, Doc.textFor, ok_bind,
    htrim]
  rfl

theorem clean_clean {d : Doc} {s : Text} (h : clean d = .ok s) (hne : s ≠ []) :
    clean (.text s) = .ok s := by
  unfold clean at h
  split at h
  next =>
    cases h
    rfl
  next =>
    obtain ⟨first, hfirst, h⟩ := ok_of_bind h
    obtain ⟨second, hsecond, h⟩ := ok_of_bind h
    obtain ⟨left, hleft, h⟩ := ok_of_bind h
    cases second with
    | text t =>
      cases hleft
      cases h
      obtain ⟨whole, rfl, hpart, hsemicolon⟩ := cutAt_eq_text (by decide) hsecond
      obtain ⟨_, -, -, hmark⟩ := cutAt_eq_text (by decide) hfirst
      have htrim := Text.isInfix_trim left
      exact clean_of_clean hne (fun h => hmark ((h.trans htrim).trans hpart))
        (fun h => hsemicolon (h.trans htrim)) (Text.trim_trim left)
    | _ => cases hleft

end Positional

end

/-- Both ways of cleaning give back a query that was tagged, with however many semicolons and whatever
name behind it, and cleaning by position what it left of a prediction changes nothing. -/
theorem cleaning_undoes_tagging :
    (∀ (q : Text) (k : Nat) (name : Text), IsQuery q →
      Keyed.clean (.text (tagged q k name)) = q ∧
      Positional.clean (.text (tagged q k name)) = .ok q) ∧
    ∀ (prediction : Doc) (s : Text), Positional.clean prediction = .ok s → s ≠ [] →
      Positional.clean (.text s) = .ok s := by
  refine ⟨fun q k name hq => ?_, fun prediction s h hne => Positional.clean_clean h hne⟩
  exact ⟨Keyed.clean_tagged hq k name, Positional.clean_tagged hq k name⟩

theorem cleaning_undoes_tagging_nested :
    IsQuery "SELECT 1" ∧
      (Keyed.clean (.text (tagged "SELECT 1" 2 "x;\t----- bird -----\ty")) = "SELECT 1" ∧
        Positional.clean (.text (tagged "SELECT 1" 2 "x;\t----- bird -----\ty")) = .ok "SELECT 1") ∧
      Positional.clean (.text " a ; b") = .ok "a" ∧ Positional.clean (.text "a") = .ok "a" := by
  have hquery : IsQuery "SELECT 1" := ⟨by decide, by decide, by decide, by decide, by decide⟩
  have hleft : Positional.clean (.text " a ; b") = .ok "a" := rfl
  exact ⟨hquery, cleaning_undoes_tagging.1 _ _ _ hquery, hleft,
    cleaning_undoes_tagging.2 _ _ hleft (by decide)⟩

end Baseline

end QueryBench
