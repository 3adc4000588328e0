import CloneScan.Category.Trait
import CloneScan.Group

/-! Naming groups. Rules are tried in order on the text of a group's first member; the first that
applies gives the label, so a text with several traits is named after the earliest. -/
namespace CloneScan

structure Rule where
  applies : List Char → Bool
  label : Label

namespace Rule

open Trait

def standard : List Rule := [
  ⟨declaresAsync, "async-function", "Extract to async utility function"⟩,
  ⟨fun s => callsFetch s || mentionsAny ["http_api_get", "http_api_post"] s,
    "api-call", "Extract to API service method"⟩,
  ⟨mentionsAny ["$effect(", "$derived"],
    "reactive-state", "Extract to reusable reactive store/composition"⟩,
  ⟨mentionsAny ["console.log", "console.error", "console.warn"],
    "logging", "Use centralized logger utility"⟩,
  ⟨mentionsAny ["new Date(", ".toISOString", ".toLocaleDateString"],
    "date-manipulation", "Extract to date utility function"⟩,
  ⟨mentionsAny [".map(", ".filter(", ".reduce("],
    "array-processing", "Extract to data processing utility"⟩,
  ⟨branches, "conditional-logic", "Extract to named function for clarity"⟩]

def fallback : Label := ⟨"unknown", "Consider extracting to utility function"⟩

def classify (rules : List Rule) (code : String) : Label :=
  match rules.find? (·.applies code.toList) with
  | some rule => rule.label
  | none => fallback

end Rule

/-- Labels a group by its first member. -/
def Group.classify (rules : List Rule) (g : Group) : Group :=
  { g with label := Rule.classify rules g.representative.content }

@[simp] theorem Group.blocks_classify (rules : List Rule) (g : Group) :
    (g.classify rules).blocks = g.blocks := rfl

@[simp] theorem Group.impact_classify (rules : List Rule) (g : Group) :
    (g.classify rules).impact = g.impact := rfl

end CloneScan
