import AudioLink.Loopback.Packetizer

/-
A stream is cut into packets without loss.

Cutting gives runs of one size and a rest that is shorter, and these in a row are what was cut. A
stream that is pushed frame by frame is cut as if it had been pushed at once, so nothing depends on
the lengths of the frames. The pieces are numbered in a row from the number of the stream on; the
numbers have 32 bits and are said as `seq + UInt32.ofNat i`, so that going round needs no case.
-/
set_option autoImplicit false

namespace AudioLink

/-- The samples of pieces in a row. -/
def Piece.join (pieces : List Piece) : Frame := pieces.flatMap Piece.samples

namespace Packetizer

/-! ## Runs of one size -/

section Cut

variable {size : Nat} (h : 0 < size)

/-- While there is enough, a run is cut off. -/
theorem cut_of_le {samples : Frame} (hle : size ≤ samples.length) :
    cut size h samples = (samples.take size :: (cut size h (samples.drop size)).1,
      (cut size h (samples.drop size)).2) := by
  rw [cut, if_pos hle]

/-- What is too short stays. -/
theorem cut_of_lt {samples : Frame} (hlt : samples.length < size) :
    cut size h samples = ([], samples) := by
  rw [cut, if_neg (Nat.not_le.mpr hlt)]

/-- Nothing is lost and nothing is moved. -/
theorem flatten_cut (samples : Frame) :
    (cut size h samples).1.flatten ++ (cut size h samples).2 = samples := by
  induction samples using cut.induct size h with
  | case1 samples hle runs rest _ ih =>
    rw [cut_of_le h hle, List.flatten_cons, List.append_assoc, ih, List.take_append_drop]
  | case2 samples hlt =>
    rw [cut_of_lt h (Nat.lt_of_not_le hlt)]
    rfl

/-- All runs have the same length. -/
theorem length_of_mem_cut (samples : Frame) :
    ∀ run ∈ (cut size h samples).1, run.length = size := by
  induction samples using cut.induct size h with
  | case1 samples hle runs rest _ ih =>
    intro run hrun
    rw [cut_of_le h hle] at hrun
    rcases List.mem_cons.mp hrun with rfl | hrun
    · exact List.length_take_of_le hle
    · exact ih run hrun
  | case2 samples hlt =>
    intro run hrun
    rw [cut_of_lt h (Nat.lt_of_not_le hlt)] at hrun
    exact absurd hrun List.not_mem_nil

/-- What stays is shorter than a run. -/
theorem length_rest_cut (samples : Frame) : (cut size h samples).2.length < size := by
  induction samples using cut.induct size h with
  | case1 samples hle runs rest _ ih =>
    rw [cut_of_le h hle]
    exact ih
  | case2 samples hlt =>
    rw [cut_of_lt h (Nat.lt_of_not_le hlt)]
    exact Nat.lt_of_not_le hlt

/-- What is cut may come in two parts: the rest of the first is cut with the second. -/
theorem cut_append (a b : Frame) :
    cut size h (a ++ b) =
      ((cut size h a).1 ++ (cut size h ((cut size h a).2 ++ b)).1,
        (cut size h ((cut size h a).2 ++ b)).2) := by
  induction a using cut.induct size h with
  | case1 a hle runs rest _ ih =>
    have hlong : size ≤ (a ++ b).length := by
      rw [List.length_append]
      omega
    rw [cut_of_le h hlong, List.take_append_of_le_length hle, List.drop_append_of_le_length hle,
      ih, cut_of_le h hle, List.cons_append]
  | case2 a hlt => rw [cut_of_lt h (Nat.lt_of_not_le hlt), List.nil_append]

/-- The runs in a row are the longest part of the samples that whole runs fill. -/
theorem flatten_cut_eq_take (samples : Frame) :
    (cut size h samples).1.flatten = samples.take (samples.length / size * size) := by
  have hflatten := flatten_cut h samples
  have hrest := length_rest_cut h samples
  have hruns : (cut size h samples).1.flatten.length = (cut size h samples).1.length * size := by
    rw [List.length_flatten, List.map_congr_left (length_of_mem_cut h samples), List.map_const',
      List.sum_replicate_nat]
  have hlength : samples.length =
      (cut size h samples).1.length * size + (cut size h samples).2.length := by
    rw [← hruns, ← List.length_append, hflatten]
  have hcount : samples.length / size = (cut size h samples).1.length := by
    rw [hlength, Nat.mul_comm, Nat.mul_add_div h, Nat.div_eq_of_lt hrest, Nat.add_zero]
  rw [hcount, ← hruns]
  exact (List.prefix_iff_eq_take.mp ⟨_, hflatten⟩)

end Cut

/-! ## Numbers -/

/-- Counting on from the next number, also where the numbers start again. -/
theorem seq_succ_add (seq : UInt32) (n : Nat) :
    seq + 1 + UInt32.ofNat n = seq + UInt32.ofNat (n + 1) := by
  rw [UInt32.ofNat_add, UInt32.add_assoc, UInt32.add_comm 1]
  rfl

/-- Numbers go on behind the runs that have been numbered. -/
theorem number_append (seq : UInt32) (a b : List Frame) :
    number seq (a ++ b) = number seq a ++ number (seq + UInt32.ofNat a.length) b := by
  induction a generalizing seq with
  | nil =>
    rw [List.nil_append, List.length_nil, number, List.nil_append]
    simp
  | cons run a ih =>
    rw [List.cons_append, number, number, ih, List.length_cons, seq_succ_add, List.cons_append]

/-- A run is numbered by its place. -/
theorem getElem?_number (seq : UInt32) (runs : List Frame) (i : Nat) :
    (number seq runs)[i]? = runs[i]?.map fun run => ⟨seq + UInt32.ofNat i, run⟩ := by
  induction runs generalizing seq i with
  | nil => rfl
  | cons run runs ih =>
    cases i with
    | zero => simp [number]
    | succ i =>
      rw [number, List.getElem?_cons_succ, List.getElem?_cons_succ, ih, seq_succ_add]

/-- Numbering changes no samples. -/
theorem map_samples_number (seq : UInt32) (runs : List Frame) :
    (number seq runs).map Piece.samples = runs := by
  induction runs generalizing seq with
  | nil => rfl
  | cons run runs ih => rw [number, List.map_cons, ih]

/-- Numbered runs join to what they were cut from. -/
theorem join_number (seq : UInt32) (runs : List Frame) :
    Piece.join (number seq runs) = runs.flatten := by
  rw [Piece.join, List.flatMap_def, map_samples_number]

/-! ## Frames one after the other -/

variable (p : Packetizer)

/-- Pushing a frame cuts what is pending with it. -/
theorem push_eq (frame : Frame) :
    p.push frame = (number p.seq (cut p.size p.size_pos (p.pending ++ frame)).1,
      { p with
        pending := (cut p.size p.size_pos (p.pending ++ frame)).2
        seq := p.seq + UInt32.ofNat (cut p.size p.size_pos (p.pending ++ frame)).1.length }) :=
  rfl

/-- The pieces that a frame completes and what stays pending are what was pending and the frame. -/
theorem join_push (frame : Frame) :
    Piece.join (p.push frame).1 ++ (p.push frame).2.pending = p.pending ++ frame := by
  rw [push_eq, join_number, flatten_cut]

/-- All pieces have the size of the packetizer. -/
theorem length_of_mem_push {frame : Frame} {piece : Piece} (hpiece : piece ∈ (p.push frame).1) :
    piece.samples.length = p.size := by
  have hmem : piece.samples ∈ (p.push frame).1.map Piece.samples := List.mem_map_of_mem hpiece
  rw [push_eq, map_samples_number] at hmem
  exact length_of_mem_cut p.size_pos _ _ hmem

/-- What is pending after a frame is shorter than a piece. -/
theorem length_pending_push (frame : Frame) : (p.push frame).2.pending.length < p.size :=
  length_rest_cut p.size_pos _

/-- Two frames are cut as if they were one. -/
theorem push_append (a b : Frame) :
    p.push (a ++ b) = ((p.push a).1 ++ ((p.push a).2.push b).1, ((p.push a).2.push b).2) := by
  have hcut := cut_append p.size_pos (p.pending ++ a) b
  rw [List.append_assoc] at hcut
  simp only [push_eq, hcut, number_append, List.length_append, UInt32.ofNat_add, UInt32.add_assoc]

/-- Adds frames to a stream, one after the other. -/
def pushAll (p : Packetizer) : List Frame → List Piece × Packetizer
  | [] => ([], p)
  | frame :: frames =>
    let (pieces, p) := p.push frame
    let (rest, p) := p.pushAll frames
    (pieces ++ rest, p)

/-- Frames are pushed one after the other. -/
theorem pushAll_cons (frame : Frame) (frames : List Frame) :
    p.pushAll (frame :: frames) =
      ((p.push frame).1 ++ ((p.push frame).2.pushAll frames).1,
        ((p.push frame).2.pushAll frames).2) :=
  rfl

theorem pushAll_singleton (frame : Frame) : p.pushAll [frame] = p.push frame := by
  rw [pushAll_cons]
  exact Prod.ext (List.append_nil _) rfl

/-- The size stays. -/
theorem size_pushAll (frames : List Frame) : (p.pushAll frames).2.size = p.size := by
  induction frames generalizing p with
  | nil => rfl
  | cons frame frames ih =>
    rw [pushAll_cons, ih]
    rfl

/-- The lengths of the frames make no difference. -/
theorem pushAll_eq_push_flatten (frames : List Frame) (hpending : p.pending.length < p.size) :
    p.pushAll frames = p.push frames.flatten := by
  induction frames generalizing p with
  | nil =>
    rw [pushAll, List.flatten_nil, push_eq, List.append_nil, cut_of_lt p.size_pos hpending]
    simp [number]
  | cons frame frames ih =>
    have hrest : (p.push frame).2.pending.length < (p.push frame).2.size :=
      p.length_pending_push frame
    rw [pushAll_cons, List.flatten_cons, push_append, ih _ hrest]

end Packetizer
end AudioLink
