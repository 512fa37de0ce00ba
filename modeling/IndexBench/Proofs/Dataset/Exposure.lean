import IndexBench.Proofs.Dataset.Stream
import IndexBench.Proofs.Record.Cut

/-!
# Limited imports

An import with a limit reads a file up to the first line feed at or behind the limit.  A line
feed is a terminator, so the part that is read has the first records of the file, as they are
read from the whole file and with the same lines.  A record that begins no further than the
limit ends no further than that line feed, so it is among them.

Main definitions:

- `Dataset.outcomes` is the outcomes of the records of a file with their lines.
- `Dataset.Exposes` says which part of a file a limit exposes.

Main results:

- Theorem `Dataset.exposed_exposes`: a limited import reads this part.
- Theorem `Dataset.Reader.openFile_whole_records`: what it reads is the first outcomes of the
  file, among them those of all records that begin up to the limit.
-/

namespace IndexBench
namespace Dataset

open Record

/-- The outcomes of the records of a file, each with the line of its record. -/
def outcomes (bytes : List UInt8) : List (Nat × Except Failure Row) :=
  (Cursor.ofBytes bytes).records.map fun record => (record.line, Row.ofRecord record)

/-! ## The part that is exposed -/

/-- Whether a limit exposes a part of a file: without a limit, or without a line feed at or
behind it, the whole file, and else what goes up to and including the first one. -/
inductive Exposes (limit : Nat) (bytes : List UInt8) : List UInt8 → Prop where
  | unlimited (h : limit = 0) : Exposes limit bytes bytes
  | unended (h : ∀ place, limit ≤ place → bytes[place]? ≠ some lineFeed) :
      Exposes limit bytes bytes
  | through {place : Nat} (hlimit : limit ≠ 0) (hplace : limit ≤ place)
      (hfeed : bytes[place]? = some lineFeed)
      (hfirst : ∀ earlier, limit ≤ earlier → earlier < place → bytes[earlier]? ≠ some lineFeed) :
      Exposes limit bytes (bytes.take (place + 1))

/-- Bytes without a line feed go up to none. -/
theorem throughLineFeed_eq_self {bytes : List UInt8} (h : lineFeed ∉ bytes) :
    throughLineFeed bytes = bytes := by
  induction bytes with
  | nil => rfl
  | cons b rest ih =>
      obtain ⟨hb, hrest⟩ := not_or.mp (List.mem_cons.not.mp h)
      rw [throughLineFeed, if_neg (Ne.symm hb), ih hrest]

/-- Bytes up to their first line feed are those in front of it and it. -/
theorem throughLineFeed_append_cons {front : List UInt8} (h : lineFeed ∉ front)
    (rest : List UInt8) :
    throughLineFeed (front ++ lineFeed :: rest) = front ++ [lineFeed] := by
  induction front with
  | nil => exact if_pos rfl
  | cons b front ih =>
      obtain ⟨hb, hfront⟩ := not_or.mp (List.mem_cons.not.mp h)
      rw [List.cons_append, throughLineFeed, if_neg (Ne.symm hb), ih hfront, List.cons_append]

/-- An import without a limit, and one whose limit has no line feed at or behind it, exposes
the whole file.  Every other import cuts the file behind the first such line feed. -/
theorem exposed_cases (limit : Nat) (bytes : List UInt8) :
    (limit = 0 ∨ ∀ place, limit ≤ place → bytes[place]? ≠ some lineFeed) ∧
        exposed limit bytes = bytes ∨
      limit ≠ 0 ∧ ∃ front between rest, limit = front.length ∧ lineFeed ∉ between ∧
        bytes = front ++ between ++ lineFeed :: rest ∧
        exposed limit bytes = front ++ between ++ [lineFeed] := by
  by_cases hzero : limit = 0
  · subst hzero
    exact .inl ⟨.inl rfl, exposed_zero bytes⟩
  rcases Nat.lt_or_ge limit bytes.length with hless | hwhole
  · have hexposed : exposed limit bytes =
        bytes.take limit ++ throughLineFeed (bytes.drop limit) := by
      simp [exposed, hzero, Nat.not_le.mpr hless]
    by_cases hfeed : lineFeed ∈ bytes.drop limit
    · obtain ⟨between, rest, hdrop, hbetween⟩ := List.eq_append_cons_of_mem hfeed
      rw [hdrop, throughLineFeed_append_cons hbetween, ← List.append_assoc] at hexposed
      refine .inr ⟨hzero, bytes.take limit, between, rest, ?_, hbetween, ?_, hexposed⟩
      · rw [List.length_take, Nat.min_eq_left hless.le]
      · rw [List.append_assoc, ← hdrop, List.take_append_drop]
    · rw [throughLineFeed_eq_self hfeed, List.take_append_drop] at hexposed
      refine .inl ⟨.inr fun place hplace hat => hfeed ?_, hexposed⟩
      refine List.mem_iff_getElem?.mpr ⟨place - limit, ?_⟩
      rw [List.getElem?_drop, Nat.add_sub_cancel' hplace, hat]
  · refine .inl ⟨.inr fun place hplace => ?_, exposed_of_length_le hwhole⟩
    rw [List.getElem?_eq_none (hwhole.trans hplace)]
    exact (Option.some_ne_none lineFeed).symm

/-- A limited import exposes the file up to the first line feed at or behind the limit. -/
theorem exposed_exposes (limit : Nat) (bytes : List UInt8) :
    Exposes limit bytes (exposed limit bytes) := by
  rcases exposed_cases limit bytes with ⟨hwhole, hexposed⟩ |
    ⟨hzero, front, between, rest, rfl, hbetween, rfl, hexposed⟩
  · rw [hexposed]
    exact hwhole.elim .unlimited .unended
  · have hcut : front ++ between ++ [lineFeed] =
        (front ++ between ++ lineFeed :: rest).take ((front ++ between).length + 1) := by
      rw [List.take_length_add_append]
      rfl
    rw [hexposed, hcut]
    refine .through hzero ?_ (by simp) fun earlier hlow hhigh hat => hbetween ?_
    · rw [List.length_append]
      exact Nat.le_add_right _ _
    · rw [List.getElem?_append_left hhigh, List.getElem?_append_right hlow] at hat
      exact List.mem_of_getElem? hat

/-! ## The records that are exposed -/

/-- What a limited import exposes has the first records of the file. -/
theorem records_exposed_isPrefix (limit : Nat) (bytes : List UInt8) :
    (Cursor.ofBytes (exposed limit bytes)).records <+: (Cursor.ofBytes bytes).records := by
  rcases exposed_cases limit bytes with ⟨-, hexposed⟩ |
    ⟨-, front, between, rest, -, -, rfl, hexposed⟩
  · simp only [hexposed, List.prefix_rfl]
  · rw [hexposed]
    exact Cursor.records_isPrefix rfl (front ++ between) rest

/-- What a limited import exposes has the records that begin up to the limit. -/
theorem lt_length_records_exposed {limit : Nat} {bytes : List UInt8} {k offset : Nat}
    (hk : k < (Cursor.ofBytes bytes).records.length) (hbegins : Begins bytes k offset)
    (hoffset : offset ≤ limit) : k < (Cursor.ofBytes (exposed limit bytes)).records.length := by
  rcases exposed_cases limit bytes with ⟨-, hexposed⟩ |
    ⟨-, front, between, rest, rfl, -, rfl, hexposed⟩
  · rwa [hexposed]
  · rw [hexposed]
    refine Cursor.lt_length_records_of_begins rfl hbegins (hoffset.trans ?_)
    rw [List.length_append]
    exact Nat.le_add_right _ _

namespace Reader

/-- A limited import reads whole records only.  It opens the file up to and including the first
line feed at or behind the limit, or all of it where there is none, and one after the other
it reads the first outcomes of the file, with their lines.  Each record begins at one offset,
and if that is not behind the limit its outcome is read as from the whole file.  A limit of
zero, and one that the file does not exceed, gives all outcomes. -/
theorem openFile_whole_records (bytes : List UInt8) (limit : Nat) :
    ∃ shown, openFile (.file bytes) limit = .ok (ofBytes shown) ∧ Exposes limit bytes shown ∧
      (ofBytes shown).reads (List.replicate (outcomes shown).length 1) =
        (outcomes shown).map (fun outcome => .single outcome.2) ∧
      outcomes shown <+: outcomes bytes ∧
      (∀ k < (outcomes bytes).length, ∃! offset, Begins bytes k offset) ∧
      (∀ k < (outcomes bytes).length, ∀ offset ≤ limit, Begins bytes k offset →
        k < (outcomes shown).length ∧ (outcomes shown)[k]? = (outcomes bytes)[k]?) ∧
      (limit = 0 ∨ bytes.length ≤ limit → outcomes shown = outcomes bytes) := by
  have hprefix : outcomes (exposed limit bytes) <+: outcomes bytes :=
    (records_exposed_isPrefix limit bytes).map _
  refine ⟨exposed limit bytes, rfl, exposed_exposes limit bytes, ?_, hprefix, fun k hk => ?_,
    fun k hk offset hoffset hbegins => ?_, fun hwhole => ?_⟩
  · rw [outcomes, List.length_map, List.map_map]
    exact reads_one rfl
  · rw [outcomes, List.length_map] at hk
    exact Cursor.existsUnique_begins hk
  · have hlength (bytes : List UInt8) :
        (outcomes bytes).length = (Cursor.ofBytes bytes).records.length := List.length_map _
    rw [hlength] at hk
    have hshown := lt_length_records_exposed hk hbegins hoffset
    rw [← hlength] at hshown
    refine ⟨hshown, ?_⟩
    rw [List.getElem?_eq_getElem hshown, List.prefix_iff_getElem?.mp hprefix k hshown]
  · rcases hwhole with rfl | hle
    · rw [exposed_zero]
    · rw [exposed_of_length_le hle]

/-- A limit in the middle of a row that a mark and blank lines come before exposes it whole. -/
theorem openFile_whole_records_marked :
    ∃ shown, openFile (.file (byteOrderMark ++ "\r\n\na;1\rb;2\nc;3\n".toUTF8.data.toList)) 12 =
        .ok (ofBytes shown) ∧
      (outcomes shown)[1]? =
        (outcomes (byteOrderMark ++ "\r\n\na;1\rb;2\nc;3\n".toUTF8.data.toList))[1]? := by
  have hlength : (outcomes
      (byteOrderMark ++ "\r\n\na;1\rb;2\nc;3\n".toUTF8.data.toList)).length = 3 := by
    rw [outcomes, List.length_map, Cursor.length_records_ofBytes]
    decide
  obtain ⟨shown, hopen, -, -, -, -, hbegins, -⟩ := openFile_whole_records
    (byteOrderMark ++ "\r\n\na;1\rb;2\nc;3\n".toUTF8.data.toList) 12
  have hsecond : Begins (byteOrderMark ++ "\r\n\na;1\rb;2\nc;3\n".toUTF8.data.toList) 1 10 := by
    refine ⟨byteOrderMark, "\r\n\na;1\r".toUTF8.data.toList, 98,
      ";2\nc;3\n".toUTF8.data.toList, by decide, by decide, rfl,
      @Ended.concat 13 rfl "\r\n\na;1".toUTF8.data.toList, by decide, rfl⟩
  exact ⟨shown, hopen, (hbegins 1 (by rw [hlength]; decide) 10 (by decide) hsecond).2⟩

end Reader
end Dataset
end IndexBench
