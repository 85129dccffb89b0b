import CommonPurse.Proofs.Entry.Spelling
import CommonPurse.Proofs.Relational.Row
import CommonPurse.Proofs.Relational.Tracing
import CommonPurse.Store.Relational.Schema

/-!
# Colours that are read back

What a relational store saves for the colour of a member is the text of a colour, which fits into
its column and is read back. So when a group is not read because of what is stored as the colour of
a member, this came from elsewhere.

## Main definitions

* `CommonPurse.Store.Relational.Shared.KeepsColors` — what a run owes to the colours that it saves.

## Main results

* `CommonPurse.Store.Relational.exists_badColor_of_findGroup` — why a group is not read.
* `CommonPurse.Store.Relational.Shared.keepsColors_run` — runs keep the colours that they save.
* `CommonPurse.Color.grammar` — how colours are spelled, written and read.
-/

namespace CommonPurse.Store.Relational

variable {d : Database} {r : Relational}

/-! ## Reading -/

/-- The rows that a group is read from are in the tables. -/
lemma lists_of_mem_membersOf {t : Table (Id × Id) MemberRow} (table : d.members = some t) {i : Id}
    {x : Id × MemberRow} (mem : x ∈ Database.membersOf t i) : d.Lists i x.1 x.2 := by
  obtain ⟨⟨⟨j, u⟩, row⟩, filtered, rfl⟩ := List.mem_map.mp ((perm_membersOf t i).mem_iff.mp mem)
  obtain ⟨there, same⟩ := List.mem_filter.mp filtered
  obtain rfl : j = i := by simpa using same
  exact ⟨t, table, there⟩

/-- Members that are not read have a colour that spells none. -/
lemma exists_badColor {i : Id} {rows : List (Id × MemberRow)} {e : Error}
    (h : membersOf i rows = .error e) :
    ∃ x ∈ rows, e = badColor i x.2.color ∧ ∀ c, ¬Color.Spells x.2.color.toList c := by
  induction rows with
  | nil => cases h
  | cons x rest ih =>
    obtain ⟨u, row⟩ := x
    rw [membersOf, memberOf] at h
    cases parsed : Color.parse (some row.color) with
    | error p =>
      simp only [parsed, Except.error.injEq] at h
      refine ⟨(u, row), List.mem_cons_self, h.symm, fun c spells => ?_⟩
      rw [spells.parse] at parsed
      cases parsed
    | ok c =>
      rw [parsed] at h
      dsimp only at h
      cases others : membersOf i rest with
      | ok ms => simp [others, Except.map] at h
      | error f =>
        obtain rfl : f = e := by simpa [others, Except.map] using h
        obtain ⟨x, mem, told, unread⟩ := ih others
        exact ⟨x, List.mem_cons_of_mem _ mem, told, unread⟩

/-- When reading a group shows that what is stored makes no sense, one of its members has a colour
that spells none. -/
lemma exists_badColor_of_findGroup {i : Id} {e : Error} (h : findGroup d i = .error e)
    (corrupt : e.isCorruption = true) :
    ∃ u row, d.Lists i u row ∧ e = badColor i row.color ∧
      ∀ c, ¬Color.Spells row.color.toList c := by
  have missing : (fetchFailed "group" (about "group_id" i)).isCorruption = false := rfl
  unfold findGroup at h
  dsimp only at h
  split at h
  · obtain rfl := Except.error.inj h
    exact absurd corrupt (by simp [missing])
  · split at h
    · cases h
    · split at h
      · obtain rfl := Except.error.inj h
        exact absurd corrupt (by simp [missing])
      next members table =>
        rw [groupOf] at h
        cases read : membersOf i (Database.membersOf members i) with
        | ok ms => simp [read, Except.map] at h
        | error f =>
          obtain rfl : f = e := by simpa [read, Except.map] using h
          obtain ⟨x, mem, told, unread⟩ := exists_badColor read
          exact ⟨x.1, x.2, lists_of_mem_membersOf table mem, told, unread⟩

/-- A write never says that what is stored makes no sense. -/
lemma isCorruption_write {w : Write} {t : Handle Session} {e : Error}
    (told : (backend.write w t r).1 = .error e) : e.isCorruption = false := by
  have failed : (writeFailed w).isCorruption = false := by cases w <;> rfl
  cases t with
  | foreign a =>
    obtain rfl := Except.error.inj told
    rfl
  | own s =>
    dsimp only [backend, write, within] at told
    split_ifs at told
    · split at told
      · obtain rfl := Except.error.inj told
        exact failed
      · dsimp only [outcome] at told
        split_ifs at told
        obtain rfl := Except.error.inj told
        exact failed
    · obtain rfl := Except.error.inj told
      rfl

/-- What a run owes to the colours that it saves. -/
structure Shared.KeepsColors (r : Relational) (xs : List Step) (s : Shared) : Prop where
  /-- What is stored as the colour of a member has been saved for the member and is read back as the
  colour that it was, or it came from elsewhere. -/
  read : ∀ i u row, s.store.database.Lists i u row →
    (∃ c, Saved xs i u c ∧ memberOf i u row =
      .ok ⟨u, i, row.name, row.email, row.isAdmin, c, row.joinedAt⟩) ∨
      Foreign r xs i u row.color
  /-- When a group is not read because what is stored makes no sense, this is due to a colour of a
  member that came from elsewhere and spells none. -/
  told : ∀ i e, (view s.store).group i = .error e → e.isCorruption = true →
    ∃ u row, s.store.database.Lists i u row ∧ e = badColor i row.color ∧
      Foreign r xs i u row.color ∧ ∀ c, ¬Color.Spells row.color.toList c

/-- **Runs keep the colours that they save.** -/
theorem Shared.keepsColors_run (r : Relational) (xs : List Step) :
    KeepsColors r xs ((begin r).run xs) := by
  have traced := (traced_run r xs).stored
  constructor
  · intro i u row there
    rcases traced i u row there with ⟨c, saved, color⟩ | foreign
    · refine .inl ⟨c, saved, ?_⟩
      simp only [memberOf, color, Color.parse_text]
    · exact .inr foreign
  · intro i e failed corrupt
    obtain ⟨u, row, there, told, unread⟩ := exists_badColor_of_findGroup failed corrupt
    refine ⟨u, row, there, told, ?_, unread⟩
    rcases traced i u row there with ⟨c, saved, color⟩ | foreign
    · rw [color] at unread
      exact absurd (Color.parse_eq_ok_iff.mp (Color.parse_text c)) (unread c)
    · exact foreign

end CommonPurse.Store.Relational

namespace CommonPurse.Color

open Store Store.Relational

/-- **The grammar of colours.** A text is read as a colour exactly when it spells it, and every
other text is refused with what is wrong with it. A colour is read back from its own text, which
fits into the column of colours. So whatever transactions are open on a relational store, and
whatever others write to its database, a group whose members the store has saved itself is never
refused for the colour of one of them.

**Proof sketch.** What is read for a part between commas is the number of its digits, whatever
blanks, signs, underscores and zeros come with them. In the store, no statement changes a colour on
its way from a saved group to the tables. So a colour in the tables that was not saved came from
elsewhere, and one that was saved is read. -/
theorem grammar :
    (∀ (s : String) (c : Color), parse (some s) = .ok c ↔ Spells s.toList c) ∧
    (∀ s : String, (∀ c, ¬Spells s.toList c) → ∃ detail, Misspelt s.toList detail ∧
      parse (some s) =
        .error (.validation detail [("field", .text "color"), ("value", .text s)])) ∧
    (∀ c : Color, parse (some c.text) = .ok c ∧ c.text.length ≤ 11) ∧
    (∃ table ∈ schema, table.name = "group_members" ∧
      Column.needed "color" (.shortText 11) ∈ table.columns) ∧
    (∀ (r : Relational) (xs : List Shared.Step),
      Shared.KeepsColors r xs ((Shared.begin r).run xs)) ∧
    ∀ (w : Write) (t : Handle Session) (r : Relational) (e : Error),
      (backend.write w t r).1 = .error e → e.isCorruption = false :=
  ⟨fun _ _ => parse_eq_ok_iff, fun _ => exists_misspelt,
    fun c => ⟨parse_text c, length_text_le c⟩, by decide, Shared.keepsColors_run,
    fun _ _ _ _ => isCorruption_write⟩

/-- A group of one member is saved. -/
def sampleSaving : List Shared.Step :=
  [.start, .write 0 (.saveGroup ⟨.ofNat 9, "Crew", .ofNat 1, .utc 0,
    [⟨.ofNat 1, .ofNat 9, "Ada", "ada@koru.test", true, .usual, .utc 0⟩]⟩), .commit 0]

/-- The tables after somebody else has written over the colour of the member. -/
def sampleTables : Database :=
  ((Shared.begin .empty).run sampleSaving).store.database.overwriteColor (.ofNat 9) (.ofNat 1) "red"

/-- The row of the member in these tables. -/
def sampleRow : MemberRow := ⟨"Ada", "ada@koru.test", true, "red", .utc 0⟩

/-- A colour can be spelled in many ways. What somebody else has written over the colour of a member
spells none, and so the group of the member is not read. -/
theorem grammar_sampleTables :
    Spells "\t+2_5 ,٠٧,  007".toList ⟨25, 7, 7⟩ ∧
      (∃ detail, Misspelt "red".toList detail ∧ parse (some "red") =
        .error (.validation detail [("field", .text "color"), ("value", .text "red")])) ∧
      (view ((Shared.begin .empty).run (sampleSaving ++ [.replace sampleTables])).store).group
        (.ofNat 9) = .error (badColor (.ofNat 9) "red") ∧
      ∃ u color, (∀ c, ¬Spells color.toList c) ∧
        Shared.Foreign .empty (sampleSaving ++ [.replace sampleTables]) (.ofNat 9) u color := by
  obtain ⟨read, refuses, -, -, runs, -⟩ := grammar
  have misread : ∀ c, ¬Spells "red".toList c := by
    intro c spells
    have ok : parse (some "red") = .ok c := (read _ _).mpr spells
    have error : parse (some "red") = .error (refused _ "red") := rfl
    cases error.symm.trans ok
  have groups : sampleTables.groups = some ⟨[(.ofNat 9, ⟨"Crew", .ofNat 1, .utc 0⟩)]⟩ := by
    decide +kernel
  have members : sampleTables.members = some ⟨[((.ofNat 9, .ofNat 1), sampleRow)]⟩ := by
    decide +kernel
  have listed : Database.membersOf ⟨[((.ofNat 9, .ofNat 1), sampleRow)]⟩ (.ofNat 9) =
      [(.ofNat 1, sampleRow)] := by decide +kernel
  have failed : (view ((Shared.begin .empty).run
      (sampleSaving ++ [.replace sampleTables])).store).group (.ofNat 9) =
        .error (badColor (.ofNat 9) "red") := by
    show findGroup sampleTables (.ofNat 9) = _
    simp only [findGroup, groups, members, listed]
    rfl
  obtain ⟨u, row, -, -, foreign, unread⟩ := (runs _ _).told _ _ failed rfl
  exact ⟨(read _ _).mp rfl, refuses _ misread, failed, u, row.color, unread, foreign⟩

end CommonPurse.Color
