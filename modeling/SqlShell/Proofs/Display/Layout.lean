import Mathlib.Algebra.GroupWithZero.Nat
import SqlShell.Job.Console
import SqlShell.Proofs.Job.Acts
import SqlShell.Proofs.Results

/-! Texts without joiners can be laid out on every terminal. Such a text takes as many cells as its
clusters do, so that it can be cut to any width, and so can all of its lines and segments.
-/

namespace SqlShell

namespace Text

-----------------------------------------------------------------------------------------
-- Clusters
-----------------------------------------------------------------------------------------

/-- The cells of all clusters. -/
def totalCells (parts : List Cluster) : Nat :=
  (parts.map Cluster.cells).sum

theorem foldl_cells (parts : List Cluster) (total : Nat)
    : parts.foldl (fun total cluster => total + cluster.cells) total = total + totalCells parts := by
  induction parts generalizing total with
  | nil => rfl
  | cons cluster parts ih =>
      rw [List.foldl_cons, ih, totalCells, totalCells, List.map_cons, List.sum_cons,
        Nat.add_assoc]

/-- The clusters from one on take as many cells as that one and the text after it, by induction on
the text.
-/
theorem totalCells_go (cluster : Cluster) (shown : Option Char) (joined : Bool) (text : List Char)
    : totalCells (clusters.go cluster shown joined text) =
        cluster.cells + cells.go shown joined text := by
  induction text generalizing cluster shown joined with
  | nil => exact List.sum_singleton
  | cons c rest ih =>
      rw [clusters.go, cells.go]
      dsimp only
      cases joined with
      | true => rw [if_pos rfl, if_pos rfl, ih]; rfl
      | false =>
          rw [if_neg Bool.false_ne_true, if_neg Bool.false_ne_true]
          by_cases hj : c = joiner
          · rw [if_pos hj, if_pos hj, ih]
            rfl
          rw [if_neg hj, if_neg hj]
          by_cases hp : c = pictureMark
          · rw [if_pos hp, if_pos hp, ih, Cluster.push, Nat.add_assoc]
          rw [if_neg hp, if_neg hp]
          by_cases hs : charCells c = 0
          · rw [if_pos hs, if_pos hs, ih, hs, Nat.zero_add]
            rfl
          · rw [if_neg hs, if_neg hs, totalCells, List.map_cons, List.sum_cons, ← totalCells, ih]

/-- The clusters of a text take as many cells as the text, unless it starts with a joiner: that
joins nothing to the cluster that it starts.
-/
theorem totalCells_clusters {text : List Char} (h : text.head? ≠ some joiner)
    : totalCells (clusters text) = cells text := by
  cases text with
  | nil => rfl
  | cons c rest =>
      have hj : c ≠ joiner := fun he => h (congrArg some he)
      rw [clusters, cells, cells.go, if_neg Bool.false_ne_true, if_neg hj, totalCells_go]
      by_cases hp : c = pictureMark
      · have hnone : charCells pictureMark = 0 := by decide +kernel
        rw [if_pos hp, hp, hnone, if_pos rfl]
        rfl
      · rw [if_neg hp]

/-- A text that does not start with a joiner can be cut to any number of cells. -/
theorem exists_takeCells {text : List Char} (h : text.head? ≠ some joiner) (width : Nat)
    : ∃ taken, takeCells width text = .ok taken
        ∧ ∀ c ∈ taken, c ∈ text ∨ c = ' ' := by
  have hfill : ∀ (width : Nat) (parts : List Cluster), ∀ c ∈ fillCells width parts,
      c ∈ (parts.map Cluster.text).flatten ∨ c = ' ' := by
    intro width parts
    induction parts generalizing width with
    | nil => exact fun _ hc => absurd hc List.not_mem_nil
    | cons cluster parts ih =>
        intro c hc
        rw [fillCells] at hc
        rw [List.map_cons, List.flatten_cons, List.mem_append]
        split at hc
        · rcases List.mem_append.mp hc with hc | hc
          · exact Or.inl (Or.inl hc)
          · exact (ih _ c hc).imp_left Or.inr
        · split at hc
          · exact absurd hc List.not_mem_nil
          · exact Or.inr (List.mem_singleton.mp hc)
  rw [takeCells]
  dsimp only
  split
  · exact ⟨[], rfl, fun _ hc => absurd hc List.not_mem_nil⟩
  · next hw =>
      split
      · exact ⟨text, rfl, fun _ => Or.inl⟩
      · next hl =>
          rw [foldl_cells, Nat.zero_add, totalCells_clusters h, if_neg (by omega),
            if_neg (by omega)]
          refine ⟨_, rfl, fun c hc => ?_⟩
          have hin := hfill width (clusters text) c hc
          rwa [flatten_clusters] at hin

/-- The pieces of a text hold its characters without the separator, by induction on the text. -/
theorem mem_of_mem_pieces {separator c : Char} {text piece : List Char}
    (hp : piece ∈ pieces separator text) (hc : c ∈ piece)
    : c ∈ text ∧ c ≠ separator := by
  induction text generalizing piece with
  | nil =>
      obtain rfl := List.mem_singleton.mp hp
      exact absurd hc List.not_mem_nil
  | cons d rest ih =>
      have hlater : ∀ {piece}, piece ∈ pieces separator rest → c ∈ piece →
          c ∈ d :: rest ∧ c ≠ separator :=
        fun hp hc => ⟨List.mem_cons_of_mem d (ih hp hc).1, (ih hp hc).2⟩
      rw [pieces] at hp
      split at hp
      · rcases List.mem_cons.mp hp with rfl | hp
        · exact absurd hc List.not_mem_nil
        · exact hlater hp hc
      · next hd =>
          cases hs : pieces separator rest with
          | nil =>
              rw [hs] at hp
              obtain rfl := List.mem_singleton.mp hp
              obtain rfl := List.mem_singleton.mp hc
              exact ⟨List.mem_cons_self, hd⟩
          | cons first more =>
              rw [hs] at hp hlater
              rcases List.mem_cons.mp hp with rfl | hp
              · rcases List.mem_cons.mp hc with rfl | hc
                · exact ⟨List.mem_cons_self, hd⟩
                · exact hlater List.mem_cons_self hc
              · exact hlater (List.mem_cons_of_mem first hp) hc

end Text

namespace Display

open Text

-----------------------------------------------------------------------------------------
-- Styled texts
-----------------------------------------------------------------------------------------

/-- All characters of a text and all of its styles have a property. -/
structure Styled.Holds (P : Char → Prop) (Q : List Char → Prop) (styled : Styled) : Prop where
  chars : ∀ c ∈ styled.text, P c
  styles : ∀ span ∈ styled.spans, Q span.style

namespace Styled.Holds

variable {P : Char → Prop} {Q : List Char → Prop} {styled : Styled}

theorem part (h : styled.Holds P Q) (start : Nat) {text : List Char} (ht : ∀ c ∈ text, P c)
    : (styled.part start text).Holds P Q := by
  refine ⟨ht, fun span hs => ?_⟩
  obtain ⟨whole, hw, he⟩ := List.mem_filterMap.mp hs
  rw [Span.within?] at he
  split at he
  · obtain rfl := Option.some.inj he
    exact h.styles whole hw
  · exact nomatch he

theorem withText (h : styled.Holds P Q) {text : List Char} (ht : ∀ c ∈ text, P c)
    : (styled.withText text).Holds P Q := by
  rw [Styled.withText]
  split
  · refine ⟨ht, fun span hs => ?_⟩
    obtain ⟨whole, hw, he⟩ := List.mem_filterMap.mp hs
    rw [Span.before?] at he
    split at he
    · obtain rfl := Option.some.inj he
      exact h.styles whole hw
    · exact nomatch he
  · exact ⟨ht, h.styles⟩

/-- The parts of a text have what the text has, by induction on the places. -/
theorem divide (h : styled.Holds P Q) (places : List Nat)
    : ∀ part ∈ styled.divide places, part.Holds P Q := by
  have hgo : ∀ start rest, (∀ c ∈ rest, P c) →
      ∀ part ∈ Styled.divide.go styled start places rest, part.Holds P Q := by
    induction places with
    | nil =>
        intro start rest hr part hp
        obtain rfl := List.mem_singleton.mp hp
        exact h.part start hr
    | cons place places ih =>
        intro start rest hr part hp
        rcases List.mem_cons.mp hp with rfl | hp
        · exact h.part start fun c hc => hr c (List.mem_of_mem_take hc)
        · exact ih place _ (fun c hc => hr c (List.mem_of_mem_drop hc)) part hp
  rw [Styled.divide]
  split
  · intro part hp
    obtain rfl := List.mem_singleton.mp hp
    exact h
  · exact hgo 0 styled.text h.chars

/-- The lines of a text have what the text has, by induction on the lines. -/
theorem lines (h : styled.Holds P Q) : ∀ line ∈ styled.lines, line.Holds P Q := by
  have hgo : ∀ lines : List (List Char), (∀ line ∈ lines, ∀ c ∈ line, P c) →
      ∀ start, ∀ line ∈ Styled.lines.go styled start lines, line.Holds P Q := by
    intro lines hl
    induction lines with
    | nil => exact fun _ _ hm => absurd hm List.not_mem_nil
    | cons first rest ih =>
        intro start line hm
        rcases List.mem_cons.mp hm with rfl | hm
        · exact h.part start (hl first List.mem_cons_self)
        · exact ih (fun other ho => hl other (List.mem_cons_of_mem first ho)) _ line hm
  rw [Styled.lines]
  split
  · exact hgo _ (fun line hl c hc => h.chars c (mem_of_mem_pieces hl hc).1) 0
  · intro line hl
    obtain rfl := List.mem_singleton.mp hl
    exact h

theorem append {first second : Styled} (hf : first.Holds P Q) (hs : second.Holds P Q)
    : (first.append second).Holds P Q := by
  constructor
  · intro c hc
    rcases List.mem_append.mp hc with hc | hc
    · exact hf.chars c hc
    · exact hs.chars c hc
  · intro span hm
    rcases List.mem_append.mp hm with hm | hm
    · exact hf.styles span hm
    · obtain ⟨own, ho, rfl⟩ := List.mem_map.mp hm
      exact hs.styles own ho

theorem concat {parts : List Styled} (h : ∀ part ∈ parts, part.Holds P Q)
    : (Styled.concat parts).Holds P Q := by
  induction parts with
  | nil =>
      exact ⟨fun _ hc => absurd hc List.not_mem_nil, fun _ hs => absurd hs List.not_mem_nil⟩
  | cons part parts ih =>
      exact (h part List.mem_cons_self).append
        (ih fun other ho => h other (List.mem_cons_of_mem part ho))

theorem extend (h : styled.Holds P Q) (hp : P ' ') (count : Nat)
    : (styled.extend count).Holds P Q := by
  constructor
  · intro c hc
    rcases List.mem_append.mp hc with hc | hc
    · exact h.chars c hc
    · exact List.eq_of_mem_replicate hc ▸ hp
  · intro span hs
    obtain ⟨own, ho, rfl⟩ := List.mem_map.mp hs
    split
    · exact h.styles own ho
    · exact h.styles own ho

/-- A text with spaces for its tabulators has what the text has, by induction on its pieces. -/
theorem expandTabs (h : styled.Holds P Q) (hp : P ' ') : (Display.expandTabs styled).Holds P Q := by
  have hgo : ∀ pieces : List (List Char), (∀ piece ∈ pieces, ∀ c ∈ piece, P c) →
      ∀ place cell, ∀ part ∈ Display.expandTabs.go styled place cell pieces, part.Holds P Q := by
    intro pieces hl
    induction pieces with
    | nil => exact fun _ _ _ hm => absurd hm List.not_mem_nil
    | cons first rest ih =>
        intro place cell part hm
        cases rest with
        | nil =>
            obtain rfl := List.mem_singleton.mp hm
            exact h.part place (hl first List.mem_cons_self)
        | cons second rest =>
            rcases List.mem_cons.mp hm with rfl | hm
            · refine (h.part place fun c hc => ?_).extend hp _
              rcases List.mem_append.mp hc with hc | hc
              · exact hl first List.mem_cons_self c hc
              · exact List.mem_singleton.mp hc ▸ hp
            · exact ih (fun other ho => hl other (List.mem_cons_of_mem first ho)) _ _ part hm
  rw [Display.expandTabs]
  split
  · exact concat (hgo _ (fun piece hm c hc => h.chars c (mem_of_mem_pieces hm hc).1) 0 0)
  · exact h

/-- The lines of a text in a width have what the text has. -/
theorem wrapLine (h : styled.Holds P Q) (hp : P ' ') (fold : Bool) (width : Nat)
    : ∀ part ∈ Display.wrapLine fold width styled, part.Holds P Q := by
  intro part hm
  obtain ⟨whole, hw, rfl⟩ := List.mem_map.mp hm
  have hwhole := (h.expandTabs hp).divide _ whole hw
  exact hwhole.withText fun c hc => hwhole.chars c (List.mem_of_mem_take hc)

/-- The segments of a text have what the text has. -/
theorem segments (h : styled.Holds P Q) : ∀ segment ∈ styled.segments, ∀ c ∈ segment, P c := by
  intro segment hs c hc
  refine h.chars c ?_
  rw [← flatten_segments]
  exact List.mem_flatten.mpr ⟨segment, hs, hc⟩

end Styled.Holds

-----------------------------------------------------------------------------------------
-- Lines of a terminal
-----------------------------------------------------------------------------------------

/-- The style can be read. -/
def IsReadable (style : List Char) : Prop :=
  ∃ found, Style.ofWords? {} (Style.wordsOf style) = .ok found

/-- A text without joiners whose styles can be read. -/
abbrev Styled.IsPlain (styled : Styled) : Prop :=
  styled.Holds (· ≠ joiner) IsReadable

theorem ne_joiner_space : ' ' ≠ joiner := by
  decide

/-- A text without joiners starts with none. -/
theorem head?_ne_joiner {text : List Char} (h : ∀ c ∈ text, c ≠ joiner)
    : text.head? ≠ some joiner :=
  fun he => h joiner (List.mem_of_mem_head? he) rfl

/-- A line without joiners can be cut. -/
theorem Styled.IsPlain.cutLine {line : Styled} (h : line.IsPlain) (width : Nat)
    : ∃ shown, cutLine false width line = .ok shown ∧ shown.IsPlain := by
  rw [Display.cutLine]
  split
  · exact ⟨line, rfl, h⟩
  · obtain ⟨taken, he, ht⟩ := exists_takeCells (head?_ne_joiner h.chars) width
    refine ⟨line.withText taken, by rw [if_neg Bool.false_ne_true, he]; rfl, ?_⟩
    refine h.withText fun c hc => ?_
    rcases ht c hc with hc | rfl
    · exact h.chars c hc
    · exact ne_joiner_space

/-- A text without joiners falls into lines of a terminal without joiners. -/
theorem Styled.IsPlain.exists_foldText {text : Styled} (h : text.IsPlain) (width : Nat)
    : ∃ lines, foldText width text = .ok lines ∧ ∀ line ∈ lines, line.IsPlain := by
  obtain ⟨parts, he, hp⟩ : ∃ parts,
      (text.lines.mapM fun line => (wrapLine true width line).mapM (Display.cutLine false width)) =
        .ok parts
      ∧ ∀ part ∈ parts, ∀ line ∈ part, line.IsPlain :=
    exists_mapM_eq_ok fun line hl => exists_mapM_eq_ok fun part hp =>
      Styled.IsPlain.cutLine ((h.lines line hl).wrapLine ne_joiner_space true width part hp) width
  refine ⟨parts.flatten, by rw [foldText, he]; rfl, fun line hl => ?_⟩
  obtain ⟨part, hm, hl⟩ := List.mem_flatten.mp hl
  exact hp part hm line hl

/-- Styles that can be read are no problem. -/
theorem Line.ofStyled_of_holds {P : Char → Prop} {lines : List Styled}
    (h : ∀ line ∈ lines, line.Holds P IsReadable)
    : Line.ofStyled lines = .ok (lines.map Styled.segments) := by
  have hread : lines.forM Styled.readStyles = .ok () := by
    refine forM_eq_ok fun line hl => forM_eq_ok fun span hs => ?_
    obtain ⟨found, hf⟩ := (h line hl).styles span hs
    rw [hf]
    rfl
  rw [Line.ofStyled, hread]
  rfl

/-- The start of segments without joiners can be taken in any width, by induction on the segments.
-/
theorem Line.exists_fit {line : Line} (h : ∀ segment ∈ line, ∀ c ∈ segment, c ≠ joiner)
    (width : Nat)
    : ∃ shown, line.fit width = .ok shown := by
  have htake : ∀ width, ∃ shown, line.take width = .ok shown := by
    induction line with
    | nil => exact fun _ => ⟨[], rfl⟩
    | cons segment rest ih =>
        intro width
        rw [Line.take]
        split
        · obtain ⟨shown, he⟩ :=
            ih (fun other ho => h other (List.mem_cons_of_mem segment ho)) (width - cells segment)
          exact ⟨segment :: shown, by rw [he]; rfl⟩
        · obtain ⟨taken, he, -⟩ :=
            exists_takeCells (head?_ne_joiner (h segment List.mem_cons_self)) width
          exact ⟨[taken], by rw [he]; rfl⟩
  rw [Line.fit]
  split
  · exact ⟨line, rfl⟩
  · exact htake width

/-- All lines without joiners are written, by induction on the lines. -/
theorem writeLines_of_isPlain {lines : List Styled} (h : ∀ line ∈ lines, line.IsPlain)
    (width : Nat)
    : (writeLines width (lines.map Styled.segments)).problem = none := by
  induction lines with
  | nil => rfl
  | cons line rest ih =>
      obtain ⟨shown, he⟩ := Line.exists_fit (h line List.mem_cons_self).segments width
      rw [List.map_cons, writeLines, he]
      exact ih fun other ho => h other (List.mem_cons_of_mem line ho)

/-- The text is written in full on a terminal of the width. -/
def FitsOn (width : Nat) (text : Styled) : Prop :=
  ∃ written, onTerminal width text = .ok written ∧ written.problem = none

/-- The lines of a text have styles of the text. -/
theorem Styled.Holds.foldText {Q : List Char → Prop} {text : Styled}
    (h : text.Holds (fun _ => True) Q) {width : Nat} {lines : List Styled}
    (he : Display.foldText width text = .ok lines)
    : ∀ line ∈ lines, line.Holds (fun _ => True) Q := by
  intro line hl
  rw [Display.foldText] at he
  cases hm : text.lines.mapM fun line =>
      (Display.wrapLine true width line).mapM (Display.cutLine false width) with
  | error problem => rw [hm] at he; exact nomatch he
  | ok parts =>
      rw [hm] at he
      obtain rfl := Except.ok.inj he
      obtain ⟨part, hp, hl⟩ := List.mem_flatten.mp hl
      obtain ⟨whole, hw, hpart⟩ := exists_of_mem_mapM hm hp
      obtain ⟨wrapped, hr, hc⟩ := exists_of_mem_mapM hpart hl
      have hwrapped := (h.lines whole hw).wrapLine trivial true width wrapped hr
      rw [Display.cutLine] at hc
      split at hc
      · exact Except.ok.inj hc ▸ hwrapped
      · rw [if_neg Bool.false_ne_true] at hc
        cases ht : takeCells width wrapped.text with
        | error problem => rw [ht] at hc; exact nomatch hc
        | ok taken =>
            rw [ht] at hc
            exact Except.ok.inj hc ▸ hwrapped.withText fun _ _ => trivial

/-- A text whose styles can be read can be shown unless it cannot be cut. -/
theorem exists_of_onTerminal_eq_error {text : Styled}
    (h : text.Holds (fun _ => True) IsReadable) {width : Nat} {problem : Problem}
    (he : onTerminal width text = .error problem)
    : ∃ cut, problem = .cut cut := by
  rw [onTerminal] at he
  split at he
  · exact nomatch he
  · cases hf : foldText width text with
    | error cut =>
        rw [hf] at he
        exact ⟨cut, (Except.error.inj he).symm⟩
    | ok lines =>
        rw [hf] at he
        change (Line.ofStyled lines >>= fun lines => pure (writeLines width lines)) = _ at he
        rw [Line.ofStyled_of_holds (h.foldText hf)] at he
        exact nomatch he

/-- A text without joiners whose styles can be read is written in full on every terminal. -/
theorem Styled.IsPlain.fitsOn {text : Styled} (h : text.IsPlain) (width : Nat)
    : FitsOn width text := by
  rw [FitsOn, onTerminal]
  split
  · exact ⟨{}, rfl, rfl⟩
  · obtain ⟨lines, he, hn⟩ := h.exists_foldText width
    refine ⟨_, ?_, writeLines_of_isPlain hn width⟩
    rw [he]
    show (Line.ofStyled lines >>= fun lines => pure (writeLines width lines)) = _
    rw [Line.ofStyled_of_holds hn]
    rfl

end Display

-----------------------------------------------------------------------------------------
-- Notices
-----------------------------------------------------------------------------------------

open Act

/-- What is written of a text on a terminal. -/
def Display.writtenOn (columns : Nat) (text : Styled) : String :=
  String.ofList (((onTerminal columns text).toOption.map Written.text).getD [])

/-- The event of a text that is written on a terminal. -/
def Event.shownOn (columns : Nat) (stream : Stream) (text : Display.Styled) : Event :=
  .written stream (Display.writtenOn columns text)

/-- A text that is written in full is noted as such. -/
theorem Console.display_of_fitsOn {columns : Nat} {text : Display.Styled}
    (h : Display.FitsOn columns text) (stream : Stream) (job : Job)
    : display stream (Display.onTerminal columns text) job =
        (.ok (), job.noteAll [.shownOn columns stream text]) := by
  obtain ⟨written, hw, hn⟩ := h
  have hwritten : ofResult (Except.mapError Display.Problem.fault (.ok written)) job =
      (.ok written, job) :=
    rfl
  rw [Event.shownOn, Display.writtenOn, hw, display, bind_of_ok hwritten, write, record,
    change_bind, hn]
  rfl

/-- No colon of the text stands before a name. -/
def Emoji.hasNoNames : List Char → Bool
  | [] => true
  | c :: rest => (c != ':' || (content? rest).isNone) && hasNoNames rest

/-- A text without names has no emoji, by induction on the text. -/
theorem Emoji.replaceNames_of_hasNoNames {text : List Char} (h : hasNoNames text = true)
    : replaceNames text = text := by
  suffices hgo : replaceNames.go 0 text = text from hgo
  induction text with
  | nil => rfl
  | cons c rest ih =>
      obtain ⟨hc, hr⟩ := (Bool.and_eq_true _ _).mp h
      rw [replaceNames.go, if_neg (Nat.lt_irrefl 0)]
      split
      · next hcolon =>
          have hnone : content? rest = none := by simpa [hcolon] using hc
          rw [hnone]
          exact congrArg (c :: ·) (ih hr)
      · exact congrArg (c :: ·) (ih hr)

/-- A text without colons names no emoji, by induction on it. -/
theorem Emoji.hasNoNames_of_not_mem {text : List Char} (h : ':' ∉ text)
    : hasNoNames text = true := by
  induction text with
  | nil => rfl
  | cons c rest ih =>
      have hc : c ≠ ':' := fun he => h (he ▸ List.mem_cons_self)
      rw [hasNoNames, ih fun hm => h (List.mem_cons_of_mem c hm)]
      simp [hc]

/-- A notice without joiners and names of emoji is written in full on every terminal. -/
theorem Console.notice_onTerminal {text : String} (h : text.toList.contains Text.joiner = false)
    (he : Emoji.hasNoNames text.toList = true) (stream : Stream) {columns : Nat} {job : Job}
    (ho : job.output = .laidOut columns)
    : notice stream text job =
        (.ok (), job.noteAll [.shownOn columns stream (.plain text.toList)]) := by
  have hplain : (Display.Styled.plain text.toList).IsPlain := by
    refine ⟨fun c hc hj => ?_, fun _ hs => absurd hs List.not_mem_nil⟩
    have hmem : c ∈ text.toList := (List.mem_filter.mp hc).1
    rw [hj, ← List.contains_iff_mem, h] at hmem
    exact Bool.false_ne_true hmem
  rw [notice, state_bind, ho]
  dsimp only
  rw [Emoji.replaceNames_of_hasNoNames he, display_of_fitsOn (hplain.fitsOn columns)]

/-- Such a notice is shown however output reaches the user. -/
theorem Console.notice_of_joinerless {text : String}
    (h : text.toList.contains Text.joiner = false) (he : Emoji.hasNoNames text.toList = true)
    (stream : Stream) (job : Job)
    : (notice stream text job).1 = .ok () := by
  cases ho : job.output with
  | noted => rw [notice, state_bind, ho]; rfl
  | verbatim => rw [notice, state_bind, ho]; rfl
  | laidOut columns => rw [notice_onTerminal h he stream ho]

end SqlShell
