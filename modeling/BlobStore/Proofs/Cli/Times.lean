import BlobStore.Cli.Browse
import BlobStore.Cli.Stat
import BlobStore.Proofs.Time.Instant

/-!
# One time in two places

A listing shows the time of an object as it is. What is told of one object keeps the time as text, and
shows what it reads in that text. Both show the same: the day and the second of the day in UTC, or a
blank when the time cannot be told.
-/

namespace BlobStore

namespace Time

/-! ## Columns -/

/-- The year in a listing. A minus sign takes one of the four places. -/
def yearColumn (year : Int) : String :=
  if year < 0 then "-" ++ Text.zeroPadded 3 year.natAbs else Text.zeroPadded 4 year.toNat

/-- A date and a time of day in a listing. -/
def dayColumn (d : Date) (hour minute second : Nat) : String :=
  yearColumn d.year ++ "-" ++ Text.zeroPadded 2 d.month ++ "-" ++ Text.zeroPadded 2 d.day ++ " " ++
    Text.zeroPadded 2 hour ++ ":" ++ Text.zeroPadded 2 minute ++ ":" ++ Text.zeroPadded 2 second

def blankColumn : String := String.ofList (List.replicate 19 ' ')

private theorem columnOf_some (t : Instant) : columnOf (some t) = t.column := rfl

private theorem Instant.column_eq (t : Instant) : t.column =
    dayColumn t.date (t.secondOfDay / 3600) (t.secondOfDay / 60 % 60) (t.secondOfDay % 60) := by
  have heq : t.column = yearColumn t.date.year ++ ("-" ++ Text.zeroPadded 2 t.date.month ++ "-" ++
    Text.zeroPadded 2 t.date.day) ++ " " ++ t.clock := rfl
  rw [heq]
  simp only [dayColumn, clock, String.append_assoc]

private theorem dayColumn_ne_blankColumn (d : Date) (hour minute second : Nat) :
    dayColumn d hour minute second ≠ blankColumn := by
  intro h
  have hcolon : ':' ∈ (dayColumn d hour minute second).toList := by simp [dayColumn]
  rw [h] at hcolon
  revert hcolon
  decide

/-- A column tells the day, by its place before or after 1970-01-01, and the second of the day. -/
def Tells (column : String) (seconds : Int) : Prop :=
  ∃ d hour minute second, Date.IsDay (seconds / 86400) d ∧ hour < 24 ∧ minute < 60 ∧ second < 60 ∧
    seconds % 86400 = (hour * 3600 + minute * 60 + second : Nat) ∧
    column = dayColumn d hour minute second

private theorem Instant.tells_column (t : Instant) : Tells t.column t.seconds := by
  have hlt := t.secondOfDay_lt
  have hsecond : (t.secondOfDay : Int) = t.seconds % 86400 := by
    unfold secondOfDay
    omega
  exact ⟨t.date, t.secondOfDay / 3600, t.secondOfDay / 60 % 60, t.secondOfDay % 60,
    Date.isDay_ofDayNumber _, by omega, by omega, by omega, by omega, t.column_eq⟩

end Time

open Time

/-- The time can be told. -/
def Moment.IsKnown (m : Moment) : Prop := -377705023201 ≤ m.seconds ∧ m.seconds ≤ 253402207200

section Moments

variable {m : Moment}

private theorem Moment.instant?_of_isKnown (hnanos : m.nanos < nanosPerSecond) (h : m.IsKnown) :
    ∃ t, m.instant? = some t ∧ t.seconds = m.seconds := by
  refine ⟨⟨m.seconds, m.nanos, h.1, h.2, hnanos⟩, ?_, rfl⟩
  rw [instant?, Instant.ofSeconds?, dif_pos ⟨⟨h.1, h.2⟩, hnanos⟩]

private theorem Moment.instant?_of_not_isKnown (h : ¬m.IsKnown) : m.instant? = none := by
  rw [instant?, Instant.ofSeconds?, dif_neg fun hknown => h ⟨hknown.1.1, hknown.1.2⟩]

private theorem columnOf_eq_blankColumn (hnanos : m.nanos < nanosPerSecond) :
    columnOf m.instant? = blankColumn ↔ ¬m.IsKnown := by
  constructor
  · intro hblank hknown
    obtain ⟨t, ht, -⟩ := Moment.instant?_of_isKnown hnanos hknown
    rw [ht, columnOf_some, t.column_eq] at hblank
    exact dayColumn_ne_blankColumn _ _ _ _ hblank
  · intro hunknown
    rw [Moment.instant?_of_not_isKnown hunknown]
    rfl

private theorem tells_columnOf (hnanos : m.nanos < nanosPerSecond) (h : m.IsKnown) :
    Tells (columnOf m.instant?) m.seconds := by
  obtain ⟨t, ht, hseconds⟩ := Moment.instant?_of_isKnown hnanos h
  rw [ht, columnOf_some, ← hseconds]
  exact t.tells_column

end Moments

namespace Cli

/-! ## Lines -/

/-- Lines as they are written. -/
def written (lines : List String) : ByteArray := (String.join (lines.map (· ++ "\n"))).toUTF8

private theorem out_foldl_line {style : Style} (hquiet : style.quiet = false)
    (lines : List String) (t : Terminal) :
    (lines.foldl (fun t line => style.line line t) t).out = t.out ++ written lines := by
  induction lines generalizing t with
  | nil => exact ByteArray.append_empty.symm
  | cons line rest ih =>
    have hline : (style.line line t).out = t.out ++ (line ++ "\n").toUTF8 := by
      rw [Style.line, hquiet]
      rfl
    have hwritten : written (line :: rest) = (line ++ "\n").toUTF8 ++ written rest := by
      rw [written, List.map_cons, String.join_cons]
      exact String.toByteArray_append
    rw [List.foldl_cons, ih, hline, hwritten, ByteArray.append_assoc]

private theorem Stat.dateLine_of (name : String) (a : Attributes) :
    (Stat.Report.of name a).dateLine = "Date      : " ++ columnOf a.modified := by
  unfold Report.dateLine Report.of
  dsimp only
  cases a.modified with
  | none => rfl
  | some t =>
    rw [Option.map_some, Option.bind_some, Instant.read?_text]

private theorem Browse.entryLine_ofObject (style : Style) (o : ListedObject) :
    Browse.entryLine style (.ofObject o) =
      columnOf (o.lastModified.bind Moment.instant?) ++ " " ++
        Text.alignRight 10 (Size.human (reportedSize o.size)) ++ " " ++ o.key.getD "" :=
  rfl

section

variable {style : Style} (hjson : style.json = false) (hquiet : style.quiet = false) (t : Terminal)

include hjson hquiet

private theorem Stat.out_print (name : String) (h : Head) :
    ∃ more, ((Stat.Report.of name (.ofHead h)).print style t).out = t.out ++ written
      (("Name      : " ++ name) ::
        ("Date      : " ++ columnOf (h.lastModified.bind Moment.instant?)) :: more) := by
  obtain ⟨more, hlines⟩ : ∃ more, (Stat.Report.of name (.ofHead h)).lines =
      ("Name      : " ++ name) :: (Stat.Report.of name (.ofHead h)).dateLine :: more := ⟨_, rfl⟩
  rw [Stat.dateLine_of] at hlines
  refine ⟨more, ?_⟩
  rw [Stat.Report.print, hjson, if_neg Bool.false_ne_true, out_foldl_line hquiet, hlines]
  rfl

private theorem Browse.out_print (r : Browse.Report) {front back : List ListEntry} {e : ListEntry}
    (hentries : r.entries = front ++ e :: back) :
    ∃ more, (r.print style t).out = t.out ++ written
      (front.map (Browse.entryLine style) ++ Browse.entryLine style e :: more) := by
  rw [Browse.Report.print, hjson, if_neg Bool.false_ne_true, out_foldl_line hquiet,
    Browse.Report.lines, hentries, List.map_append, List.map_cons, List.append_assoc,
    List.append_assoc, List.cons_append]
  exact ⟨_, rfl⟩

end

/-- What is told of one object and the listing of it show the same time, for every time that a service
may report. It is blank if it lies outside of the years that can be told, and otherwise it is the
date and the time of day in UTC, counted from 1970-01-01 day by day. -/
theorem shown_time_agrees {m : Moment} (hnanos : m.nanos < nanosPerSecond) :
    let column := columnOf m.instant?
    (∀ (style : Style) (t : Terminal), style.json = false → style.quiet = false →
      (∀ (name : String) (h : Head), h.lastModified = some m →
        ∃ more, ((Stat.Report.of name (.ofHead h)).print style t).out = t.out ++ written
          (("Name      : " ++ name) :: ("Date      : " ++ column) :: more)) ∧
      ∀ (r : Browse.Report) (front back : List ListEntry) (o : ListedObject),
        o.lastModified = some m → r.entries = front ++ .ofObject o :: back →
        ∃ more, (r.print style t).out = t.out ++ written
          (front.map (Browse.entryLine style) ++
            (column ++ " " ++ Text.alignRight 10 (Size.human (reportedSize o.size)) ++ " " ++
              o.key.getD "") :: more)) ∧
    (column = blankColumn ↔ ¬m.IsKnown) ∧
    (m.IsKnown → Tells column m.seconds) := by
  refine ⟨fun style t hjson hquiet => ⟨?_, ?_⟩, columnOf_eq_blankColumn hnanos,
    tells_columnOf hnanos⟩
  · intro name h hm
    have hout := Stat.out_print hjson hquiet t name h
    rw [hm] at hout
    exact hout
  · intro r front back o hm hentries
    have hout := Browse.out_print hjson hquiet t r hentries
    rw [Browse.entryLine_ofObject, hm] at hout
    exact hout

/-- The first second that can be told, and a part of it. -/
theorem shown_time_agrees_earliest :
    let m : Moment := ⟨-377705023201, 500000000⟩
    let h : Head := ⟨some 0, none, none, none, none, none, none, some m, none⟩
    let o : ListedObject := ⟨some "k", some 0, none, some m⟩
    m.nanos < nanosPerSecond ∧ m.IsKnown ∧ h.lastModified = some m ∧ o.lastModified = some m ∧
      Style.plain.json = false ∧ Style.plain.quiet = false ∧
      (Stat.Report.of "k" (.ofHead h)).modified = some "-009999-01-02T01:59:59.5Z" ∧
      (∃ more, ((Stat.Report.of "k" (.ofHead h)).print .plain .blank).out =
        written ("Name      : k" :: "Date      : -9999-01-02 01:59:59" :: more)) ∧
      (∃ more, ((Browse.Report.mk [.ofObject o] none none).print .plain .blank).out =
        written ("-9999-01-02 01:59:59        0 B k" :: more)) ∧
      Tells "-9999-01-02 01:59:59" m.seconds := by
  intro m h o
  have hnanos : m.nanos < nanosPerSecond := by decide
  have hknown : m.IsKnown := ⟨by decide, by decide⟩
  have hcolumn : columnOf m.instant? = "-9999-01-02 01:59:59" := by decide +kernel
  obtain ⟨hprinted, -, htells⟩ := shown_time_agrees hnanos
  rw [hcolumn] at hprinted htells
  obtain ⟨hstat, hlisted⟩ := hprinted .plain .blank rfl rfl
  obtain ⟨moreLines, hname⟩ := hstat "k" h rfl
  obtain ⟨moreRows, hrow⟩ := hlisted ⟨[.ofObject o], none, none⟩ [] [] o rfl rfl
  have hsize : "-9999-01-02 01:59:59" ++ " " ++ Text.alignRight 10 (Size.human (reportedSize o.size)) ++
      " " ++ o.key.getD "" = "-9999-01-02 01:59:59        0 B k" := by decide +kernel
  rw [hsize] at hrow
  exact ⟨hnanos, hknown, rfl, rfl, rfl, rfl, by decide +kernel,
    ⟨moreLines, hname.trans ByteArray.empty_append⟩, ⟨moreRows, hrow.trans ByteArray.empty_append⟩,
    htells hknown⟩

end Cli

end BlobStore
