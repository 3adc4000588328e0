/-! Case changes written as runs of code points that move by one distance, and characters that
become several. -/
namespace CloneScan.Text

/-- Every `step`-th code point from `first` to `last` moves by `distance`. -/
structure CaseRun where
  first : Nat
  last : Nat
  step : Nat
  distance : Int

def CaseRun.covers (run : CaseRun) (n : Nat) : Bool :=
  run.first ≤ n && n ≤ run.last && (n - run.first) % run.step == 0

def CaseRun.ofTuple : Nat × Nat × Nat × Int → CaseRun
  | (first, last, step, distance) => ⟨first, last, step, distance⟩

/-- The image of one character: its expansion if it has one, else its place in a run, else
itself. -/
def mapCase (runs : List CaseRun) (expansions : List (Nat × List Nat)) (c : Char) : List Char :=
  match expansions.lookup c.toNat with
  | some image => image.map Char.ofNat
  | none =>
    match runs.find? (·.covers c.toNat) with
    | some run => [Char.ofNat (c.toNat + run.distance).toNat]
    | none => [c]

end CloneScan.Text
