import ServiceScaffold.Files.Disk

/-!
# The names of a path

A path is followed name by name. Cutting a path before its last name (`Disk.splitPath`) leaves a
path of all the other names, and joining a name to a directory adds one: `Parent head path name`
says so of both.
-/
namespace ServiceScaffold.Files.Path
open Text

/-! ## Names as lists of characters -/

def parts (cs : List Char) : List (List Char) :=
  (segments '/' cs).filter (· ≠ [])

theorem names_eq (path : String) : names path = (parts path.toList).map String.ofList :=
  rfl

theorem parts_append (a b : List Char) : parts (a ++ '/' :: b) = parts a ++ parts b := by
  rw [parts, segments_append, List.filter_append]
  rfl

theorem parts_of_not_mem {cs : List Char} (h : '/' ∉ cs) (hne : cs ≠ []) : parts cs = [cs] := by
  rw [parts, segments_of_not_mem h, List.filter_cons_of_pos (by simpa using hne)]
  rfl

theorem parts_slashes {cs : List Char} (h : ∀ c ∈ cs, c = '/') : parts cs = [] := by
  induction cs with
  | nil => rfl
  | cons c cs ih =>
    obtain rfl := h c List.mem_cons_self
    exact (parts_append [] cs).trans (ih fun x hx => h x (List.mem_cons_of_mem _ hx))

theorem parts_append_slashes (cs : List Char) {slashes : List Char}
    (h : ∀ c ∈ slashes, c = '/') : parts (cs ++ slashes) = parts cs := by
  cases slashes with
  | nil => rw [List.append_nil]
  | cons c rest =>
    obtain rfl := h c List.mem_cons_self
    rw [parts_append, parts_slashes fun x hx => h x (List.mem_cons_of_mem _ hx), List.append_nil]

/-- A path that names nothing leads to the root, unless it is empty. -/
theorem head?_of_parts_eq_nil {cs : List Char} (h : parts cs = []) (hne : cs ≠ []) :
    cs.head? = some '/' := by
  obtain ⟨c, cs, rfl⟩ := List.exists_cons_of_ne_nil hne
  by_cases hc : c = '/'
  · rw [hc, List.head?_cons]
  · exfalso
    rw [parts, segments, if_neg hc] at h
    split at h <;> simp at h

/-! ## Heads -/

/-- A path is its head, slashes, and what stands behind them; without slashes it has no head. -/
theorem eq_headOf_append (cs : List Char) : ∃ slashes : List Char,
    cs = headOf cs ++ slashes ++ afterLast '/' cs ∧ (∀ c ∈ slashes, c = '/') ∧
      (headOf cs ++ slashes = [] ∨ ∃ before, headOf cs ++ slashes = before ++ ['/']) := by
  obtain ⟨front, hf, hb⟩ := eq_append_afterLast '/' cs
  have ht : cs.take (cs.length - (afterLast '/' cs).length) = front := by
    have hl : cs.length = front.length + (afterLast '/' cs).length := by
      rw [← List.length_append, ← hf]
    have hn : cs.length - (afterLast '/' cs).length = front.length := by omega
    rw [hn]
    conv => lhs; rw [hf]
    exact List.take_left
  have hh : ∃ slashes : List Char, front = headOf cs ++ slashes ∧ ∀ c ∈ slashes, c = '/' := by
    rw [headOf]
    simp only [ht]
    split
    · exact ⟨[], (List.append_nil _).symm, by simp⟩
    · refine ⟨(front.reverse.takeWhile (· = '/')).reverse, ?_, ?_⟩
      · rw [← List.reverse_append, List.takeWhile_append_dropWhile, List.reverse_reverse]
      · intro c hc
        have := List.all_takeWhile (p := (· = '/')) (l := front.reverse)
        simpa using List.all_eq_true.1 this c (List.mem_reverse.1 hc)
  obtain ⟨slashes, hs, hall⟩ := hh
  exact ⟨slashes, hs ▸ hf, hall, hs ▸ hb⟩

/-- The names of a path are those of its head and the last one. -/
theorem parts_headOf (cs : List Char) :
    parts cs = parts (headOf cs) ++ parts (afterLast '/' cs) := by
  obtain ⟨slashes, hcs, hs, hb⟩ := eq_headOf_append cs
  conv => lhs; rw [hcs]
  rw [← parts_append_slashes (headOf cs) hs]
  rcases hb with hb | ⟨before, hb⟩
  · rw [hb]
    rfl
  · rw [hb, List.append_assoc, List.singleton_append, parts_append, parts_append]
    exact congrArg (· ++ parts (afterLast '/' cs)) (List.append_nil (parts before)).symm

theorem headOf_isPrefix (cs : List Char) : headOf cs <+: cs := by
  obtain ⟨slashes, hcs, _⟩ := eq_headOf_append cs
  exact ⟨slashes ++ afterLast '/' cs, by rw [← List.append_assoc, ← hcs]⟩

/-! ## Parents -/

/-- The path begins with `head` and leads one name further. -/
structure Parent (head path name : String) : Prop where
  nonempty : head ≠ ""
  isPrefix : head.toList <+: path.toList
  names : names path = names head ++ [name]

theorem Parent.isAbsolute {head path name : String} (h : Parent head path name) :
    isAbsolute path = isAbsolute head := by
  obtain ⟨rest, hr⟩ := h.isPrefix
  have hne : head.toList ≠ [] := fun e => h.nonempty (String.toList_inj.1 e)
  obtain ⟨c, cs, hc⟩ := List.exists_cons_of_ne_nil hne
  rw [Path.isAbsolute, Path.isAbsolute, ← hr, hc]
  rfl

theorem Parent.size_le {head path name : String} (h : Parent head path name) :
    head.utf8ByteSize ≤ path.utf8ByteSize := by
  obtain ⟨rest, hr⟩ := h.isPrefix
  have : path = head ++ String.ofList rest := by
    rw [← String.toList_inj, ← hr, String.toList_append, String.toList_ofList]
  rw [this, String.utf8ByteSize_append]
  omega

/-- A path of slashes alone leads to the root. -/
theorem isAbsolute_of_names_eq_nil {path : String} (h : names path = []) (hne : path ≠ "") :
    isAbsolute path = true := by
  rw [names_eq, List.map_eq_nil_iff] at h
  rw [isAbsolute, head?_of_parts_eq_nil h fun e => hne (String.toList_inj.1 e)]
  rfl

theorem parent_ofList {head path last : List Char} (hne : head ≠ []) (hp : head <+: path)
    (hn : parts path = parts head ++ [last]) :
    Parent (String.ofList head) (String.ofList path) (String.ofList last) where
  nonempty := fun e => hne (by simpa using congrArg String.toList e)
  isPrefix := by simpa using hp
  names := by simp [names_eq, hn]

theorem parent_splitPath {path : List Char} (ht : (Disk.splitPath path).2 ≠ [])
    (hh : (Disk.splitPath path).1 ≠ []) :
    Parent (String.ofList (Disk.splitPath path).1) (String.ofList path)
      (String.ofList (Disk.splitPath path).2) := by
  have last (cs : List Char) (h : afterLast '/' cs ≠ []) :
      parts cs = parts (headOf cs) ++ [afterLast '/' cs] := by
    rw [parts_headOf cs, parts_of_not_mem (not_mem_afterLast '/' cs) h]
  by_cases h : afterLast '/' path = []
  · -- slashes at the end belong to no name
    have hs : Disk.splitPath path =
        (headOf (headOf path), afterLast '/' (headOf path)) := by
      simp [Disk.splitPath, h]
    simp only [hs] at ht hh ⊢
    have hpre : headOf (headOf path) <+: path :=
      (headOf_isPrefix (headOf path)).trans (headOf_isPrefix path)
    refine parent_ofList hh hpre ?_
    have hp : parts path = parts (headOf path) ++ [] := by
      rw [parts_headOf path, h]
      rfl
    rw [hp, List.append_nil, last (headOf path) ht]
  · have hs : Disk.splitPath path = (headOf path, afterLast '/' path) := by
      simp [Disk.splitPath, h]
    simp only [hs] at hh ⊢
    exact parent_ofList hh (headOf_isPrefix path) (last path h)

/-! ## Files in a directory -/

/-- The path of a file of its own: what stands behind the last slash is a name, and neither the
directory reached nor the one above it. -/
def NamesFile (path : String) : Prop :=
  base path ≠ "" ∧ base path ≠ "." ∧ base path ≠ ".."

theorem NamesFile.names {path : String} (h : NamesFile path) :
    ∃ before, names path = before ++ [base path] := by
  have hne : afterLast '/' path.toList ≠ [] := fun e => h.1 (by rw [base, e])
  refine ⟨(parts (headOf path.toList)).map String.ofList, ?_⟩
  rw [names_eq, parts_headOf, parts_of_not_mem (not_mem_afterLast '/' path.toList) hne,
    List.map_append]
  rfl

theorem NamesFile.endsInSlash {path : String} (h : NamesFile path) :
    Disk.endsInSlash path = false := by
  have hb : base path ≠ "" := h.1
  rw [Disk.endsInSlash, decide_eq_false_iff_not]
  intro e
  obtain ⟨front, hf⟩ := List.getLast?_eq_some_iff.1 e
  refine hb ?_
  rw [base, hf, afterLast, List.reverse_append]
  rfl

/-- A name behind a directory stands at the end of their path. -/
theorem join_eq_append (directory name : String) : ∃ front, join directory name = front ++ name := by
  unfold join
  split
  · exact ⟨"", by simp⟩
  · split
    · exact ⟨directory, rfl⟩
    · exact ⟨directory ++ "/", rfl⟩

theorem namesFile_append {suffix : List Char} (hs : '/' ∉ suffix) (hl : 2 < suffix.length)
    {path : String} {front : List Char} (hp : path.toList = front ++ suffix) : NamesFile path := by
  have hb : (base path).toList = afterLast '/' front ++ suffix := by
    rw [base, hp, afterLast_append hs, String.toList_ofList]
  have hlen : 2 < (base path).toList.length := by
    rw [hb, List.length_append]
    omega
  refine ⟨?_, ?_, ?_⟩ <;> exact fun e => by simp [e] at hlen

/-- A name of one segment is a step further from the directory. -/
theorem parent_join {directory name : String} (hd : directory ≠ "") (hn : name ≠ "")
    (hs : '/' ∉ name.toList) : Parent directory (join directory name) name := by
  have hne : name.toList ≠ [] := fun e => hn (String.toList_inj.1 e)
  have ha : isAbsolute name = false := by
    rw [isAbsolute, decide_eq_false_iff_not]
    exact fun e => hs (List.mem_of_mem_head? e)
  have hparts : parts name.toList = [name.toList] := parts_of_not_mem hs hne
  unfold join
  rw [ha]
  simp only [Bool.false_eq_true, if_false, hd, false_or]
  split
  · next he =>
    obtain ⟨before, hb⟩ := List.getLast?_eq_some_iff.1 he
    refine ⟨hd, by simp, ?_⟩
    have hfront : parts directory.toList = parts before := by
      rw [hb, parts_append_slashes before (by simp)]
    simp only [names_eq, String.toList_append]
    rw [hfront, hb, List.append_assoc, List.singleton_append, parts_append, hparts]
    simp
  · refine ⟨hd, by simp [List.append_assoc], ?_⟩
    have hslash : "/".toList = ['/'] := rfl
    simp only [names_eq, String.toList_append, hslash, List.append_assoc, List.singleton_append]
    rw [parts_append, hparts]
    simp

end ServiceScaffold.Files.Path
