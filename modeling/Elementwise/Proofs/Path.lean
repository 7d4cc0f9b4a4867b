import Elementwise.Emission
import Mathlib.Tactic

/-!
# Files in a directory

The path of a file in a directory is the file's name behind something that depends on the directory
alone, so that files with different names have different paths.
-/

namespace Elementwise.Path

/-- Whether the text is a single segment that normalization keeps. -/
def IsFileName (file : String) : Prop :=
  '/' ∉ file.toList ∧ file ≠ "" ∧ file ≠ "." ∧ file ≠ ".."

instance decidableIsFileName (file : String) : Decidable (IsFileName file) :=
  inferInstanceAs (Decidable (_ ∧ _ ∧ _ ∧ _))

variable {directory file : String}

lemma addSegment_of_isFileName (h : IsFileName file) (absolute : Bool) (reversed : List String) :
    addSegment absolute reversed file = file :: reversed := by
  simp [addSegment, h.2.1, h.2.2.1, h.2.2.2]

/-! ### The last segment -/

lemma intercalate_append_singleton {segments : List String} (h : segments ≠ []) (file : String) :
    "/".intercalate (segments ++ [file]) = "/".intercalate segments ++ "/" ++ file := by
  rw [String.intercalate_append_of_ne_nil h (by simp), String.intercalate_singleton]

/-- What stands before the last of some segments does not depend on it. -/
lemma exists_intercalate_append (segments : List String) :
    ∃ base : String, ∀ file, "/".intercalate (segments ++ [file]) = base ++ file := by
  by_cases hsegments : segments = []
  · exact ⟨"", fun file => by simp [hsegments]⟩
  · exact ⟨"/".intercalate segments ++ "/", intercalate_append_singleton hsegments⟩

/-- A file name behind a slash is the last part of a text. -/
lemma splitOn_append_slash (text : List Char) (h : IsFileName file) :
    (text ++ '/' :: file.toList).splitOn '/' = text.splitOn '/' ++ [file.toList] := by
  have hfile : file.toList.splitOn '/' = [file.toList] := List.splitOn_eq_singleton h.1
  rw [List.splitOn, List.splitOnP_append_cons _ _ (by simp)]
  exact congrArg _ hfile

/-- A file name is added to the segments of the directory, which stays absolute or relative. -/
lemma segments_append (hdirectory : directory ≠ "") (hfile : IsFileName file) :
    segments (directory ++ "/" ++ file) = segments directory ++ [file] ∧
      isAbsolute (directory ++ "/" ++ file) = isAbsolute directory := by
  have happend : (directory ++ "/" ++ file).toList = directory.toList ++ '/' :: file.toList := by
    simp
  have habsolute : isAbsolute (directory ++ "/" ++ file) = isAbsolute directory := by
    have hne : directory.toList ≠ [] := by simpa using hdirectory
    rw [isAbsolute, isAbsolute, happend, List.head?_append_of_ne_nil _ hne]
  have hsplit : (directory ++ "/" ++ file).toList.splitOn '/' =
      directory.toList.splitOn '/' ++ [file.toList] := by
    rw [happend, splitOn_append_slash _ hfile]
  refine ⟨?_, habsolute⟩
  rw [segments, segments, habsolute, hsplit]
  simp only [List.map_append, List.map_cons, List.map_nil, String.ofList_toList, List.foldl_append,
    List.foldl_cons, List.foldl_nil, addSegment_of_isFileName hfile, List.reverse_cons]

lemma segments_of_isFileName (h : IsFileName file) :
    segments file = [file] ∧ isAbsolute file = false := by
  constructor
  · rw [segments, List.splitOn_eq_singleton h.1]
    simp [addSegment_of_isFileName h]
  · rw [isAbsolute, beq_eq_false_iff_ne]
    exact fun hhead => h.1 (List.mem_of_head? hhead)

/-- The segments of a path in a directory are those of the directory and the file name. -/
lemma join_eq (directory : String) (h : IsFileName file) :
    join directory file =
      (if isAbsolute directory then "/" else "") ++
        "/".intercalate (segments directory ++ [file]) := by
  obtain ⟨base, hbase⟩ := exists_intercalate_append (segments directory)
  have hbody : ("/".intercalate (segments directory ++ [file])).isEmpty = false := by
    rw [hbase]
    simp [h.2.1]
  have hpath : segments (if directory.isEmpty then file else directory ++ "/" ++ file) =
        segments directory ++ [file] ∧
      isAbsolute (if directory.isEmpty then file else directory ++ "/" ++ file) =
        isAbsolute directory := by
    by_cases hempty : directory = ""
    · subst hempty
      exact segments_of_isFileName h
    · rw [if_neg (by simpa using hempty)]
      exact segments_append hempty h
  -- the path is not empty, so normalization does not turn it into a dot
  rw [join, normalize, hpath.1, hpath.2, hbody]
  split
  · rfl
  · simp

/-! ### Normal directories -/

/-- A path of file names between single slashes, with or without a slash at the start. -/
inductive IsNormal : String → Prop where
  | relative {file : String} (h : IsFileName file) : IsNormal file
  | absolute {file : String} (h : IsFileName file) : IsNormal ("/" ++ file)
  | inside {directory file : String} (h : IsNormal directory) (hfile : IsFileName file) :
      IsNormal (directory ++ "/" ++ file)

lemma segments_root_append (h : IsFileName file) :
    segments ("/" ++ file) = [file] ∧ isAbsolute ("/" ++ file) = true := by
  have habsolute : isAbsolute ("/" ++ file) = true := by
    simp [isAbsolute]
  have hsplit : ("/" ++ file).toList.splitOn '/' = [[], file.toList] := by
    have hroot : ("/" ++ file).toList = [] ++ '/' :: file.toList := by simp
    rw [hroot, splitOn_append_slash _ h]
    rfl
  have hempty : addSegment true [] "" = [] := by simp [addSegment]
  refine ⟨?_, habsolute⟩
  rw [segments, habsolute, hsplit]
  simp [hempty, addSegment_of_isFileName h]

/-- The segments of a normal path make up the path. -/
lemma IsNormal.segments_eq (h : IsNormal directory) :
    directory ≠ "" ∧ segments directory ≠ [] ∧
      (if isAbsolute directory then "/" else "") ++ "/".intercalate (segments directory) =
        directory := by
  induction h with
  | relative h =>
    rw [(segments_of_isFileName h).1, (segments_of_isFileName h).2]
    simp [h.2.1]
  | absolute h =>
    rw [(segments_root_append h).1, (segments_root_append h).2]
    simp
  | @inside directory file _ hfile ih =>
    obtain ⟨hdirectory, hsegments, hpath⟩ := ih
    rw [(segments_append hdirectory hfile).1, (segments_append hdirectory hfile).2,
      intercalate_append_singleton hsegments, ← String.append_assoc, ← String.append_assoc, hpath]
    simp

/-- In a normal directory a file has the path that one would write. -/
lemma IsNormal.join_eq (h : IsNormal directory) (hfile : IsFileName file) :
    join directory file = directory ++ "/" ++ file := by
  obtain ⟨_, hsegments, hpath⟩ := h.segments_eq
  rw [Path.join_eq directory hfile, intercalate_append_singleton hsegments, ← String.append_assoc,
    ← String.append_assoc, hpath]

/-- Files with different names have different paths in a directory. -/
lemma join_injective {other : String} (hfile : IsFileName file) (hother : IsFileName other)
    (h : join directory file = join directory other) : file = other := by
  obtain ⟨base, hbase⟩ := exists_intercalate_append (segments directory)
  rw [join_eq directory hfile, join_eq directory hother, hbase, hbase, String.append_right_inj,
    String.append_right_inj] at h
  exact h

lemma normalize_ne_empty (path : String) : normalize path ≠ "" := by
  rw [normalize]
  split_ifs with habsolute hbody
  · simp
  · simp
  · simpa using hbody

lemma resolve_ne_empty (workingDirectory path : String) : resolve workingDirectory path ≠ "" :=
  normalize_ne_empty _

end Elementwise.Path
