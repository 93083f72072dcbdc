/-
  A path taken apart.

  1. **Slashes at the end** do not count, however many there are (`Path.IsTrimmed`,
     `Path.withoutEndSlashes_append`).

  2. **The parent and the base.**  What is left is cut at its last slash (`Text.cutLast_append`), so
     the parent, that slash and the base make it up again, and the base holds no slash; without a
     slash all of it is the base (`Path.isTakenApart`).  What is left does not end in a slash, so
     the base is empty only when nothing is left (`Path.base_eq_empty_iff`).

  3. **Among the bytes.**  In UTF-8 the byte of a slash stands for a slash wherever it occurs
     (`Text.Utf8.slash_mem_encode_iff`), which is the crux: no part of a longer character can be
     taken for one.  So the last slash can be looked for among the bytes (`Path.lastSlash?`), and
     both cuts there are between characters (`Path.isCutOut`).
-/
import DaemonWatch.Proofs.TextLines
import DaemonWatch.Proofs.Utf8
import DaemonWatch.Text.Path

namespace DaemonWatch

/-! ## The last mark of a text -/

namespace Text

variable {mark : Char}

/-- Seen from the end, the last mark is the first one. -/
theorem cutLast_eq (s : List Char) :
    cutLast mark s = ((cut mark s.reverse).2.reverse, (cut mark s.reverse).1.reverse) := rfl

/-- Cutting at the last mark takes apart what that mark joins. -/
theorem cutLast_append {behind : List Char} (unmarked : mark ∉ behind) (before : List Char) :
    cutLast mark (before ++ mark :: behind) = (before, behind) := by
  have turned : (before ++ mark :: behind).reverse = behind.reverse ++ mark :: before.reverse := by
    simp
  have unmarked' : mark ∉ behind.reverse := mt List.mem_reverse.mp unmarked
  rw [cutLast_eq, turned, cut_append unmarked', List.reverse_reverse, List.reverse_reverse]

/-- Without a mark nothing stands before the cut. -/
theorem cutLast_of_not_mem {s : List Char} (unmarked : mark ∉ s) : cutLast mark s = ([], s) := by
  have passed := bne_of_not_mem (mt List.mem_reverse.mp unmarked)
  rw [cutLast, List.takeWhile_eq_self_iff.mpr passed, List.dropWhile_eq_nil_iff.mpr passed]
  simp

/-- One of the marks of a text is the last one. -/
theorem exists_lastMark {s : List Char} (there : mark ∈ s) :
    ∃ before behind, s = before ++ mark :: behind ∧ mark ∉ behind := by
  obtain ⟨behind, before, turned, unmarked⟩ :=
    List.eq_append_cons_of_mem (List.mem_reverse.mpr there)
  refine ⟨before.reverse, behind.reverse, ?_, mt List.mem_reverse.mp unmarked⟩
  rw [← List.reverse_reverse s, turned]
  simp

end Text

/-! ## The bytes of a slash -/

namespace Text.Utf8

/-- The byte of a slash stands for a slash wherever it occurs. -/
theorem slash_mem_encode_iff {s : String} : 0x2F ∈ encode s ↔ '/' ∈ s.toList := by
  have only (c : Char) : 0x2F ∈ encodeChar c ↔ c = '/' := by
    rw [mem_encodeChar_iff (by decide), eq_comm, ← Char.toNat_inj]
    rfl
  simp only [encode, List.mem_flatMap, only]
  constructor
  · rintro ⟨c, there, rfl⟩
    exact there
  · intro there
    exact ⟨'/', there, rfl⟩

end Text.Utf8

namespace Path

open Text

/-! ## Slashes at the end -/

/-- That a text ends in a slash. -/
def EndsInSlash (s : String) : Prop := s.toList.getLast? = some '/'

instance (s : String) : Decidable (EndsInSlash s) :=
  inferInstanceAs (Decidable (s.toList.getLast? = some '/'))

/-- A number of slashes. -/
def slashes (n : Nat) : String := String.ofList (List.replicate n '/')

/-- The path without the slashes at its end. -/
def trimmed (p : String) : String := String.ofList (withoutEndSlashes p.toList)

theorem toList_slashes (n : Nat) : (slashes n).toList = List.replicate n '/' := String.toList_ofList

theorem toList_trimmed (p : String) : (trimmed p).toList = withoutEndSlashes p.toList :=
  String.toList_ofList

/-- However many slashes are put behind a path, they do not count. -/
theorem withoutEndSlashes_append (p : List Char) (n : Nat) :
    withoutEndSlashes (p ++ List.replicate n '/') = withoutEndSlashes p := by
  apply dropEnd_append
  intro c there
  rw [beq_iff_eq]
  exact List.eq_of_mem_replicate there

/-- What is left when the slashes at the end are gone.  The two conditions fix it: with fewer
slashes dropped it would end in one, and nothing else is dropped. -/
structure IsTrimmed (p t : String) : Prop where
  whole : ∃ n, p = t ++ slashes n
  ending : ¬EndsInSlash t

theorem isTrimmed (p : String) : IsTrimmed p (trimmed p) where
  whole := by
    obtain ⟨w, run, whole⟩ := exists_dropEnd_append (· == '/') p.toList
    have same : w = List.replicate w.length '/' :=
      List.eq_replicate_of_mem fun c there => beq_iff_eq.mp (run c there)
    refine ⟨w.length, String.toList_inj.mp ?_⟩
    rw [String.toList_append, toList_slashes, toList_trimmed, ← same]
    exact whole
  ending := by
    rw [EndsInSlash, toList_trimmed]
    intro last
    exact not_of_getLast?_dropEnd '/' last rfl

/-- A path that does not end in a slash is left as it is. -/
theorem trimmed_eq_self_iff {s : String} : trimmed s = s ↔ ¬EndsInSlash s := by
  rw [← String.toList_inj, toList_trimmed, withoutEndSlashes, dropEnd_eq_self_iff]
  constructor
  · intro plain last
    exact plain '/' last rfl
  · intro ending c last slash
    rw [beq_iff_eq.mp slash] at last
    exact ending last

theorem endsInSlash_append_slash (s : String) : EndsInSlash (s ++ "/") := by
  rw [EndsInSlash, String.toList_append]
  exact List.getLast?_concat

theorem not_endsInSlash_of_noSlash {s : String} (noSlash : '/' ∉ s.toList) : ¬EndsInSlash s :=
  mt List.mem_of_getLast? noSlash

/-- Nothing is left just when there was nothing but slashes. -/
theorem trimmed_eq_empty_iff (p : String) : trimmed p = "" ↔ ∀ c ∈ p.toList, c = '/' := by
  rw [← String.toList_inj, toList_trimmed, String.toList_empty, withoutEndSlashes,
    dropEnd_eq_nil_iff]
  simp only [beq_iff_eq]

/-! ## The parent and the base -/

/-- The parent, a slash and the base make up a text that holds a slash.  A text without one is its
own base and has no parent. -/
structure IsTakenApart (t parent base : String) : Prop where
  noSlash : '/' ∉ base.toList
  joined : '/' ∈ t.toList → parent ++ "/" ++ base = t
  whole : '/' ∉ t.toList → base = t ∧ parent = ""

theorem toList_base (p : String) :
    (Path.base p).toList = (cutLast '/' (trimmed p).toList).2 := by
  rw [Path.base, String.toList_ofList, toList_trimmed]
  rfl

theorem toList_parent (p : String) :
    (Path.parent p).toList = (cutLast '/' (trimmed p).toList).1 := by
  rw [Path.parent, String.toList_ofList, toList_trimmed]
  rfl

/-- What is left of a path is cut at its last slash. -/
theorem toList_parts {p : String} {before behind : List Char}
    (kept : (trimmed p).toList = before ++ '/' :: behind) (noSlash : '/' ∉ behind) :
    (Path.parent p).toList = before ∧ (Path.base p).toList = behind := by
  rw [toList_parent, toList_base, kept, cutLast_append noSlash]
  exact ⟨rfl, rfl⟩

theorem isTakenApart (p : String) : IsTakenApart (trimmed p) (Path.parent p) (Path.base p) := by
  by_cases there : '/' ∈ (trimmed p).toList
  · obtain ⟨before, behind, kept, noSlash⟩ := exists_lastMark there
    obtain ⟨parent, base⟩ := toList_parts kept noSlash
    refine ⟨?_, fun _ => ?_, fun without => absurd there without⟩
    · rwa [base]
    · rw [← String.toList_inj, String.toList_append, String.toList_append, parent, base, kept]
      simp
  · have parent : (Path.parent p).toList = [] := by rw [toList_parent, cutLast_of_not_mem there]
    have base : (Path.base p).toList = (trimmed p).toList := by
      rw [toList_base, cutLast_of_not_mem there]
    refine ⟨?_, fun slash => absurd slash there, fun _ => ?_⟩
    · rwa [base]
    · exact ⟨String.toList_inj.mp base, String.toList_eq_nil_iff.mp parent⟩

/-- A path without a slash is its own base. -/
theorem base_of_noSlash {s : String} (noSlash : '/' ∉ s.toList) : Path.base s = s := by
  have same : trimmed s = s := trimmed_eq_self_iff.mpr (not_endsInSlash_of_noSlash noSlash)
  have apart := isTakenApart s
  rw [same] at apart
  exact (apart.whole noSlash).1

/-- The base is empty just when there is nothing but slashes. -/
theorem base_eq_empty_iff (p : String) : Path.base p = "" ↔ ∀ c ∈ p.toList, c = '/' := by
  rw [← trimmed_eq_empty_iff]
  have apart := isTakenApart p
  by_cases there : '/' ∈ (trimmed p).toList
  · -- What is left does not end in the slash before the base.
    have filled : trimmed p ≠ "" := by
      intro none
      rw [none] at there
      cases there
    refine iff_of_false (fun none => (isTrimmed p).ending ?_) filled
    rw [← apart.joined there, none, String.append_empty]
    exact endsInSlash_append_slash _
  · rw [(apart.whole there).1]

theorem trimmed_append_slashes (p : String) (n : Nat) : trimmed (p ++ slashes n) = trimmed p := by
  rw [trimmed, String.toList_append, toList_slashes, withoutEndSlashes_append, trimmed]

theorem base_append_slashes (p : String) (n : Nat) : Path.base (p ++ slashes n) = Path.base p := by
  rw [← String.toList_inj, toList_base, trimmed_append_slashes, toList_base]

theorem parent_append_slashes (p : String) (n : Nat) :
    Path.parent (p ++ slashes n) = Path.parent p := by
  rw [← String.toList_inj, toList_parent, trimmed_append_slashes, toList_parent]

/-! ## Among the bytes -/

/-- Where the last slash stands among bytes. -/
def lastSlash? : List UInt8 → Option Nat
  | [] => none
  | b :: rest =>
    match lastSlash? rest with
    | some i => some (i + 1)
    | none => if b = 0x2F then some 0 else none

theorem lastSlash?_eq_none_iff {bytes : List UInt8} : lastSlash? bytes = none ↔ 0x2F ∉ bytes := by
  induction bytes with
  | nil => simp [lastSlash?]
  | cons b rest ih =>
    rw [lastSlash?, List.mem_cons, not_or, ← ih]
    cases lastSlash? rest with
    | none => simp [eq_comm]
    | some i => simp

theorem lastSlash?_append {behind : List UInt8} (clean : 0x2F ∉ behind) (before : List UInt8) :
    lastSlash? (before ++ 0x2F :: behind) = some before.length := by
  induction before with
  | nil => simp [lastSlash?, lastSlash?_eq_none_iff.mpr clean]
  | cons b before ih => simp [lastSlash?, ih]

/-- How the parts are cut out of a text at the byte of its last slash: the parent is what stands
before that byte and the base what stands behind it, and both places are boundaries of characters.
Without a slash nothing is cut. -/
inductive IsCutOut (t parent base : String) : Option Nat → Prop
  | uncut (whole : base = t) (bare : parent = "") : IsCutOut t parent base none
  | cut {i : Nat} (before : (String.Pos.Raw.mk i).IsValid t)
      (behind : (String.Pos.Raw.mk (i + 1)).IsValid t)
      (start : Utf8.encode parent = (Utf8.encode t).take i)
      (rest : Utf8.encode base = (Utf8.encode t).drop (i + 1)) : IsCutOut t parent base (some i)

theorem rawEndPos_eq (s : String) : s.rawEndPos = ⟨(Utf8.encode s).length⟩ := by
  rw [String.Pos.Raw.ext_iff, String.byteIdx_rawEndPos, ← String.size_toByteArray,
    ← Utf8.toByteArray_encode, List.size_toByteArray]

/-- Two texts are cut out of the text in which a slash joins them, if it is the last one. -/
theorem isCutOut_joined (parent : String) {base : String} (noSlash : '/' ∉ base.toList) :
    IsCutOut (parent ++ "/" ++ base) parent base
      (lastSlash? (Utf8.encode (parent ++ "/" ++ base))) := by
  have slash : Utf8.encode "/" = [0x2F] := by decide
  have bytes : Utf8.encode (parent ++ "/" ++ base) =
      Utf8.encode parent ++ 0x2F :: Utf8.encode base := by
    rw [Utf8.encode_append, Utf8.encode_append, slash, List.append_assoc, List.singleton_append]
  have found : lastSlash? (Utf8.encode (parent ++ "/" ++ base)) =
      some (Utf8.encode parent).length := by
    rw [bytes, lastSlash?_append (mt Utf8.slash_mem_encode_iff.mp noSlash)]
  rw [found]
  refine .cut ?_ ?_ ?_ ?_
  · rw [String.Pos.Raw.isValid_iff_exists_append]
    exact ⟨parent, "/" ++ base, String.append_assoc, (rawEndPos_eq parent).symm⟩
  · rw [String.Pos.Raw.isValid_iff_exists_append]
    refine ⟨parent ++ "/", base, rfl, ?_⟩
    rw [rawEndPos_eq, Utf8.encode_append, slash, List.length_append, List.length_singleton]
  · rw [bytes, List.take_left]
  · rw [bytes, List.append_cons]
    exact (List.drop_left' (by simp)).symm

theorem isCutOut (p : String) :
    IsCutOut (trimmed p) (Path.parent p) (Path.base p) (lastSlash? (Utf8.encode (trimmed p))) := by
  have apart := isTakenApart p
  by_cases there : '/' ∈ (trimmed p).toList
  · have cut := isCutOut_joined (Path.parent p) apart.noSlash
    rwa [apart.joined there] at cut
  · have absent := lastSlash?_eq_none_iff.mpr (mt Utf8.slash_mem_encode_iff.mp there)
    rw [absent]
    exact .uncut (apart.whole there).1 (apart.whole there).2

/-- **The parts of a path.**  The slashes at the end of a path are dropped; what is left is taken
apart at its last slash into the parent and the base (`IsTakenApart`).  The base is empty just when
the path is nothing but slashes, and it is its own base; and slashes that are put behind a path
change neither part.  The last slash is found among the bytes, and the parts are cut out before and
behind it at boundaries of characters (`IsCutOut`). -/
theorem parts_of_path (p : String) :
    IsTrimmed p (trimmed p) ∧ IsTakenApart (trimmed p) (Path.parent p) (Path.base p) ∧
      (Path.base p = "" ↔ ∀ c ∈ p.toList, c = '/') ∧ Path.base (Path.base p) = Path.base p ∧
      (∀ n, Path.base (p ++ slashes n) = Path.base p ∧
        Path.parent (p ++ slashes n) = Path.parent p) ∧
      IsCutOut (trimmed p) (Path.parent p) (Path.base p)
        (lastSlash? (Utf8.encode (trimmed p))) := by
  have apart := isTakenApart p
  have more (n : Nat) : Path.base (p ++ slashes n) = Path.base p ∧
      Path.parent (p ++ slashes n) = Path.parent p :=
    ⟨base_append_slashes p n, parent_append_slashes p n⟩
  exact ⟨isTrimmed p, apart, base_eq_empty_iff p, base_of_noSlash apart.noSlash, more, isCutOut p⟩

/-- Characters of several bytes, a doubled slash, and slashes at the end. -/
example : Path.parent "/日本//é.txt//" = "/日本/" ∧ Path.base "/日本//é.txt//" = "é.txt" := by decide

end Path

end DaemonWatch
