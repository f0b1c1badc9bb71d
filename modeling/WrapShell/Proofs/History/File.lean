import WrapShell.History.File
import WrapShell.Proofs.Files.Change
import WrapShell.Proofs.Yaml.Layout
import WrapShell.Proofs.Yaml.Node
import Mathlib.Data.List.TakeDrop
import Mathlib.Data.List.TakeWhile
/-!
# The history file holds what was written

Entries are written one after the other and read back through tokens and nodes
(`read_write_entries`); a history that is written without a problem is what its file holds
(`read_sync`). Together: a history that is written is the one that is opened again
(`openFile_sync`).
-/

namespace WrapShell

open Yaml Yaml.Layout

namespace History.Entry

variable {l : Layout} {kinds : List TokenKind} {indent : Int} {outer : List Int} {word : Text} {e : Entry} {n : Yaml.Node}

/-! ## From tokens to entries -/

/-- The fields of an entry in the file. -/
def fields (e : Entry) : List (Text × Text) := [("base".toList, e.base), ("cmd".toList, e.line)]

/-- An entry is read from the mapping with its fields. -/
theorem decoder_record (h : IsRecord e.fields n) (site : Site) (hdepth : 0 < site.depth) (left : Nat) :
    (decoder site n).run left = .ok (e, left) := by
  obtain ⟨p, _, rfl, hes⟩ := h
  rw [fields, List.forall₂_cons_left_iff] at hes
  obtain ⟨_, _, ⟨p₁, q₁, rfl⟩, hes, rfl⟩ := hes
  rw [List.forall₂_cons_left_iff] at hes
  obtain ⟨_, _, ⟨p₂, q₂, rfl⟩, hes, rfl⟩ := hes
  obtain rfl := List.forall₂_nil_left_iff.1 hes
  obtain ⟨path, around, depth, anchors⟩ := site
  obtain ⟨depth, rfl⟩ : ∃ d, depth = d + 1 := Nat.exists_eq_succ_of_ne_zero (Nat.ne_of_gt hdepth)
  rfl

theorem items_records {es : List Entry} {ns : List Yaml.Node} (h : List.Forall₂ IsRecord (es.map fields) ns) (site : Site)
    (hdepth : 0 < site.depth) (i left : Nat) : (Decoder.items decoder site i ns).run left = .ok (es, left) := by
  induction es generalizing ns i with
  | nil =>
    obtain rfl := List.forall₂_nil_left_iff.1 h
    rfl
  | cons e es ih =>
    rw [List.map_cons, List.forall₂_cons_left_iff] at h
    obtain ⟨n, ns, hn, hns, rfl⟩ := h
    have hfirst := decoder_record hn (site.item i) hdepth left
    have hrest := ih hns (i + 1)
    simp only [Decoder.items, StateT.run_bind, hfirst]
    change ((Decoder.items decoder site (i + 1) ns >>= fun as => pure (e :: as)).run left) = _
    rw [StateT.run_bind, hrest]
    rfl

/-! ## From text to tokens -/

theorem isFieldName_base : IsFieldName "base".toList :=
  ⟨by decide, by simp [isSpace, isBreak], by decide, by decide⟩

theorem isFieldName_cmd : IsFieldName "cmd".toList :=
  ⟨by decide, by simp [isSpace, isBreak], by decide, by decide⟩

/-- The entry that is next is read, whether it is the first or not. -/
theorem yaml_read {opening : TokenKind} (hopen : indent = -1 ∧ outer = [] ∧ opening = .blockSequenceStart ∨
      indent = 2 ∧ outer = [0, -1] ∧ opening = .blockEnd)
    (h : l.At kinds indent outer true 0 (e.yaml ++ word)) (hend : .streamEnd ∉ kinds) (hword : StartsToken word) :
    ∃ l', (∀ fuel, run (fuel + 7) l = run fuel l') ∧
      l'.At (kinds ++ opening :: entryKinds e.fields) 2 [0, -1] true 0 word := by
  have hopening : opening ≠ .streamEnd := by rcases hopen with ⟨_, _, rfl⟩ | ⟨_, _, rfl⟩ <;> simp
  have htext : e.yaml ++ word = '-' :: ' ' :: ("base".toList ++ ':' :: ' ' :: (writeString valueIndent e.base ++
      (List.replicate 2 ' ' ++ ("cmd".toList ++ ':' :: ' ' :: (writeString valueIndent e.line ++
        (List.replicate 0 ' ' ++ word)))))) := by
    have hfirst : "- base: ".toList = '-' :: ' ' :: ("base".toList ++ [':', ' ']) := by decide
    have hsecond : "  cmd: ".toList = List.replicate 2 ' ' ++ ("cmd".toList ++ [':', ' ']) := by decide
    have hyaml : e.yaml = "- base: ".toList ++ writeString valueIndent e.base ++ "  cmd: ".toList ++
      writeString valueIndent e.line := rfl
    rw [hyaml, hfirst, hsecond]
    simp only [List.append_assoc, List.cons_append, List.nil_append, List.replicate_zero]
  have hbase (t : Text) : StartsToken ("base".toList ++ t) := by
    rintro c ⟨⟩
    decide
  have hcmd (t : Text) : StartsToken ("cmd".toList ++ t) := by
    rintro c ⟨⟩
    decide
  rw [htext] at h
  obtain ⟨l₁, h₁, a₁⟩ := h.entry hopen hend (hbase _)
  obtain ⟨l₂, h₂, a₂⟩ := a₁.field isFieldName_base (.inl ⟨rfl, rfl, rfl⟩) (by simp [hend, hopening.symm])
    (startsToken_writeString _ _ _)
  obtain ⟨l₃, h₃, a₃⟩ := a₂.value (by simp [hend, hopening.symm]) (by decide) (Nat.le_refl 2) (hcmd _)
  obtain ⟨l₄, h₄, a₄⟩ := a₃.field isFieldName_cmd (.inr ⟨rfl, rfl, rfl⟩) (by simp [hend, hopening.symm])
    (startsToken_writeString _ _ _)
  obtain ⟨l₅, h₅, a₅⟩ := a₄.value (by simp [hend, hopening.symm]) (by decide) (Nat.zero_le 2) hword
  refine ⟨l₅, fun fuel => ?_, ?_⟩
  · calc run (fuel + 7) l = run (fuel + 6) l₁ := h₁ (fuel + 6)
      _ = run (fuel + 4) l₂ := h₂ (fuel + 4)
      _ = run (fuel + 3) l₃ := h₃ (fuel + 3)
      _ = run (fuel + 1) l₄ := h₄ (fuel + 1)
      _ = run fuel l₅ := h₅ fuel
  · simpa [entryKinds, fields, fieldKinds] using a₅

theorem startsToken_entries (es : List Entry) : StartsToken (es.flatMap yaml) := by
  cases es with
  | nil => simp [StartsToken]
  | cons e es =>
    rintro c ⟨⟩
    decide

/-- By induction on the entries behind the first: each closes the one before it. -/
theorem entries_read (es : List Entry) (h : l.At kinds 2 [0, -1] true 0 (es.flatMap yaml)) (hend : .streamEnd ∉ kinds) :
    ∃ tokens, (∀ fuel, run (fuel + 7 * es.length + 2) l = (tokens, none)) ∧
      tokens.map Token.kind = kinds ++ (es.flatMap fun e => .blockEnd :: entryKinds e.fields) ++
        [.blockEnd, .blockEnd, .streamEnd] := by
  induction es generalizing l kinds with
  | nil =>
    obtain ⟨tokens, hrun, hkinds⟩ := h.close hend
    exact ⟨tokens, hrun, by simpa using hkinds⟩
  | cons e es ih =>
    rw [List.flatMap_cons] at h
    obtain ⟨l', hfirst, hat⟩ := yaml_read (.inr ⟨rfl, rfl, rfl⟩) h hend (startsToken_entries es)
    obtain ⟨tokens, hrun, hkinds⟩ := ih hat (by simp [hend, entryKinds, fields, fieldKinds])
    refine ⟨tokens, fun fuel => ?_, by simpa using hkinds⟩
    rw [List.length_cons, show fuel + 7 * (es.length + 1) + 2 = fuel + 7 * es.length + 2 + 7 by omega, hfirst]
    exact hrun fuel

end History.Entry

namespace History

theorem isShown_of_mem_write {c : Char} {es : List Entry} (h : c ∈ write es) : isShown c := by
  have hindent : ∀ c ∈ valueIndent, isShown c := fun c hc => by rw [List.eq_of_mem_replicate hc]; decide
  have names : ∀ c ∈ "- base: ".toList ++ "  cmd: ".toList, isShown c := List.all_eq_true.1 (by decide)
  cases es with
  | nil =>
    have : ∀ c ∈ "[]\n".toList, isShown c := List.all_eq_true.1 (by decide)
    exact this c h
  | cons e es =>
    obtain ⟨e, _, h⟩ := List.mem_flatMap.1 h
    change c ∈ "- base: ".toList ++ writeString valueIndent e.base ++ "  cmd: ".toList ++ writeString valueIndent e.line at h
    simp only [List.mem_append] at h
    rcases h with ((h | h) | h) | h
    · exact names c (List.mem_append_left _ h)
    · exact isShown_of_mem_writeString hindent h
    · exact names c (List.mem_append_right _ h)
    · exact isShown_of_mem_writeString hindent h

/-- A text without carriage returns has its line ends joined. -/
theorem joinBreaks_eq {t : Text} (h : '\r' ∉ t) : joinBreaks t = t := by
  fun_induction joinBreaks t with
  | case1 t => exact absurd List.mem_cons_self h
  | case2 t => exact absurd List.mem_cons_self h
  | case3 c t _ _ ih => rw [ih fun ht => h (List.mem_cons_of_mem c ht)]
  | case4 => rfl

theorem recordKinds_entries (fields : List (Text × Text)) (records : List (List (Text × Text))) :
    entryKinds fields ++ (records.flatMap fun fields => .blockEnd :: entryKinds fields) ++ [.blockEnd] =
      (fields :: records).flatMap recordKinds := by
  induction records generalizing fields with
  | nil => simp [recordKinds]
  | cons next records ih =>
    calc entryKinds fields ++ ((next :: records).flatMap fun fields => .blockEnd :: entryKinds fields) ++ [.blockEnd] =
        recordKinds fields ++
          (entryKinds next ++ (records.flatMap fun fields => .blockEnd :: entryKinds fields) ++ [.blockEnd]) := by
          simp [recordKinds]
      _ = (fields :: next :: records).flatMap recordKinds := by rw [ih next]; rfl

theorem length_le_write (es : List Entry) : 8 * es.length ≤ (es.flatMap Entry.yaml).length := by
  induction es with
  | nil => exact Nat.zero_le _
  | cons e es ih =>
    have hyaml : e.yaml = "- base: ".toList ++ writeString valueIndent e.base ++ "  cmd: ".toList ++
      writeString valueIndent e.line := rfl
    have hname : "- base: ".toList.length = 8 := by decide
    rw [List.flatMap_cons, List.length_append, List.length_cons, hyaml]
    simp only [List.length_append, hname]
    omega

/-- The tokens of entries that are written. -/
theorem scan_write (e : Entry) (es : List Entry) :
    ∃ tokens, scan (write (e :: es)) = (tokens, none) ∧ tokens.map Token.kind = .streamStart :: .blockSequenceStart ::
      (((e :: es).map Entry.fields).flatMap recordKinds ++ [.blockEnd, .streamEnd]) := by
  have hstarts := Entry.startsToken_entries (e :: es)
  have hstart : (start (write (e :: es))).At [.streamStart] (-1) [] true 0 (write (e :: es)) :=
    ⟨rfl, rfl, rfl, rfl, .origin, rfl, skipVoid_word _ _ _ hstarts⟩
  obtain ⟨l, hfirst, hat⟩ := Entry.yaml_read (.inl ⟨rfl, rfl, rfl⟩) hstart (by simp) (Entry.startsToken_entries es)
  obtain ⟨tokens, hrun, hkinds⟩ := Entry.entries_read es hat (by simp [entryKinds, Entry.fields, fieldKinds])
  refine ⟨tokens, ?_, ?_⟩
  · have hshown (c : Char) (hc : c ∈ write (e :: es)) : isShown c := isShown_of_mem_write hc
    have hspan : (write (e :: es)).span isAllowed = (write (e :: es), []) := by
      rw [List.span_eq_takeWhile_dropWhile, List.takeWhile_eq_self_iff.2 fun c hc => isAllowed_of_isShown (hshown c hc),
        List.dropWhile_eq_nil_iff.2 fun c hc => isAllowed_of_isShown (hshown c hc)]
    have hjoin : joinBreaks (write (e :: es)) = write (e :: es) :=
      joinBreaks_eq fun h => ne_of_isShown (hshown _ h) (by decide) rfl
    have hlength := length_le_write (e :: es)
    obtain ⟨fuel, hfuel⟩ : ∃ fuel, 2 * (write (e :: es)).length + 4 = fuel + 7 * es.length + 2 + 7 := by
      rw [List.length_cons] at hlength
      change 8 * (es.length + 1) ≤ (write (e :: es)).length at hlength
      exact ⟨2 * (write (e :: es)).length + 4 - (7 * es.length + 9), by omega⟩
    rw [scan, hspan, hjoin, hfuel]
    exact (hfirst _).trans (hrun fuel)
  · have hrecords := recordKinds_entries e.fields (es.map Entry.fields)
    rw [hkinds, List.map_cons, ← hrecords, List.flatMap_map]
    simp

/-- What is written is read as the same entries. -/
theorem read_write_entries (es : List Entry) : read (write es) = .ok es := by
  cases es with
  | nil => decide +kernel
  | cons e es =>
    obtain ⟨tokens, hscan, hkinds⟩ := scan_write e es
    obtain ⟨p, ns, hdocument, hns⟩ := Document.ofText_records _ hscan hkinds
    have hblank : Text.allBlank (write (e :: es)) = false := rfl
    have hlist (left : Nat) : (Decoder.list Entry.decoder (.root (.sequence p ns)) (.sequence p ns)).run left =
        .ok (e :: es, left) :=
      Entry.items_records hns ⟨['.'], (['.'], p.mark), 127, (Yaml.Node.sequence p ns).anchors⟩ (Nat.zero_lt_succ 126) 0 left
    rw [read, hblank, if_neg (by decide), decode, hdocument]
    dsimp only
    rw [hlist]

/-! ## From the file to the history -/

variable {h : History} {here there : Place} {file : Path}

/-- A history that was written without a problem is what its file holds. -/
theorem read_sync (hfile : h.file = some file) (hsync : h.sync here = (there, none)) :
    there.read file = .ok (write h.entries) := by
  rw [sync, hfile] at hsync
  dsimp only at hsync
  split at hsync
  · cases hsync
  · split at hsync
    · cases hsync
    · next written hwrite =>
      cases hsync
      exact Place.read_write hwrite

/-- It is loaded from there again. -/
theorem load_sync (hfile : h.file = some file) (hsync : h.sync here = (there, none)) :
    load there file = .ok h.entries := by
  rw [load, read_sync hfile hsync]
  dsimp only
  rw [read_write_entries]

/-- Whether a file can be written, in a directory that is there or can be made. -/
def IsWritable (here : Place) (file : Path) : Prop :=
  ∃ room content written, makeRoom here file = (room, none) ∧ room.write file content = .ok written

theorem sync_of_write {room : Place} (hfile : h.file = some file) (hroom : makeRoom here file = (room, none))
    (hwrite : room.write file (write h.entries) = .ok there) : h.sync here = (there, none) := by
  simp only [sync, hfile, hroom, hwrite]

theorem exists_sync (hfile : h.file = some file) (hwritable : IsWritable here file) :
    ∃ there, h.sync here = (there, none) := by
  obtain ⟨room, content, written, hroom, hwrite⟩ := hwritable
  obtain ⟨there, hthere⟩ := Place.exists_write hwrite (write h.entries)
  exact ⟨there, sync_of_write hfile hroom hthere⟩

/-- Making room makes directories only. -/
theorem makeRoom_grows (here : Place) (file : Path) : here.Grows (makeRoom here file).1 ((Path.parent? file).elim [] Path.upwards) [] := by
  rw [makeRoom]
  split
  · exact .refl here _ _
  · exact .refl here _ _
  · next dir _ hparent =>
    rw [hparent]
    exact here.makeDirs_grows dir

/-- What is left where some entries are to be kept in a file: they are in it, if it can be written, and nothing
else is changed. -/
structure IsKept (file : Path) (entries : List Entry) (before after : Place) : Prop where
  cwd : after.cwd = before.cwd
  written : IsWritable before file → load after file = .ok entries
  others : ∀ l e, before.tree.get? l = some e → after.resolve file ≠ .ok l → after.tree.get? l = some e

theorem sync_isKept (hfile : h.file = some file) (here : Place) : IsKept file h.entries here (h.sync here).1 := by
  have hroom := makeRoom_grows here file
  have hwritten (hwritable : IsWritable here file) : load (h.sync here).1 file = .ok h.entries := by
    obtain ⟨there, hsync⟩ := exists_sync hfile hwritable
    rw [hsync]
    exact load_sync hfile hsync
  suffices (h.sync here).1.cwd = here.cwd ∧
      ∀ l e, here.tree.get? l = some e → (h.sync here).1.resolve file ≠ .ok l → (h.sync here).1.tree.get? l = some e from
    ⟨this.1, hwritten, this.2⟩
  simp only [sync, hfile]
  rcases hmade : makeRoom here file with ⟨there, problem?⟩
  rw [hmade] at hroom
  cases problem? with
  | some problem => exact ⟨hroom.cwd, fun l e he _ => hroom.keeps l e he⟩
  | none =>
    dsimp only
    cases hwrite : there.write file (write h.entries) with
    | error e => exact ⟨hroom.cwd, fun l e he _ => hroom.keeps l e he⟩
    | ok written =>
      exact ⟨(Place.write_cwd hwrite).trans hroom.cwd, fun l e he helse => Place.write_keeps hwrite (hroom.keeps l e he) helse⟩

theorem load_of_cwd {cwd : Location} (hcwd : Path.isAbsolute file ∨ cwd = here.cwd) :
    load { here with cwd := cwd } file = load here file := by
  rw [load, load, Place.read_of_cwd hcwd]

/-- A history whose file can be written is written, whatever its entries are, and the history that
is opened from the file has the same entries, whatever base it is opened with. -/
theorem openFile_sync (hwritable : IsWritable here file) (base : Text) (entries : List Entry) :
    ∃ there, sync ⟨base, entries, some file⟩ here = (there, none) ∧
      ∀ base', openFile there base' file = .ok ⟨base', entries, some file⟩ := by
  obtain ⟨there, hsync⟩ := exists_sync (h := ⟨base, entries, some file⟩) rfl hwritable
  refine ⟨there, hsync, fun base' => ?_⟩
  rw [openFile, load_sync rfl hsync]
  rfl

/-- Entries of every style, in a file that has to be made first. -/
theorem openFile_sync_hostile :
    IsWritable ⟨⟨[]⟩, []⟩ "h" ∧
      ∃ there, sync ⟨"git", [⟨"git", "log  'it\'s'"⟩, ⟨[], "!!x: # \\"⟩, ⟨"null", " a\n\n b\n\n"⟩, ⟨"0x1F", "\u0007\r\u2028 "⟩],
          some "h"⟩ ⟨⟨[]⟩, []⟩ = (there, none) ∧
        ∀ base', openFile there base' "h" =
          .ok ⟨base', [⟨"git", "log  'it\'s'"⟩, ⟨[], "!!x: # \\"⟩, ⟨"null", " a\n\n b\n\n"⟩, ⟨"0x1F", "\u0007\r\u2028 "⟩],
            some "h"⟩ :=
  have hwritable : IsWritable ⟨⟨[]⟩, []⟩ "h" :=
    ⟨⟨⟨[]⟩, []⟩, [], ⟨⟨[(["h"], .file [] false)]⟩, []⟩, rfl, by
      simp +decide [Place.write, Place.find, List.splitOn_cons_eq_if_modifyHead, Tree.walk, Tree.get?, Place.put, Tree.put]⟩
  ⟨hwritable, openFile_sync hwritable _ _⟩

end History

end WrapShell
