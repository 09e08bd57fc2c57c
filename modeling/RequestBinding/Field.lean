import RequestBinding.Declaration
import RequestBinding.Extractor.Basic

/-! Compiled parameters: what feeds a parameter, and how it is passed on. -/
namespace RequestBinding

universe u v

/-- What a parameter takes its value from; `δ` stands for dependencies. -/
inductive Feed (δ : Type u) where
  | request
  | extract (e : Extractor)
  | dependency (d : δ)

namespace Feed
variable {δ : Type u}

def source : Feed δ → Source
  | .request => .request
  | .extract e => e.source
  | .dependency _ => .dependency

def extractor? : Feed δ → Option Extractor
  | .extract e => some e
  | _ => none

def dependency? : Feed δ → Option δ
  | .dependency d => some d
  | _ => none

/-- The feed for a source from the parts at hand: the request takes none, a dependency just a
dependency, and everything else just an extractor of that source. -/
def ofParts (source : Source) (extractor? : Option Extractor) (dependency? : Option δ) :
    Except ParamProblem (Feed δ) :=
  match source, extractor?, dependency? with
  | .request, none, none => .ok .request
  | .request, _, _ => .error .requestWithParts
  | .dependency, none, some d => .ok (.dependency d)
  | .dependency, _, _ => .error .noDependency
  | s, some e, none => if e.source = s then .ok (.extract e) else .error (.noExtractor s)
  | s, _, _ => .error (.noExtractor s)

end Feed

structure Field (δ : Type u) where
  name : String
  schema : Schema
  alias? : Option String := none
  default? : Option Value := none
  kind : ParamKind := .positionalOrKeyword
  feed : Feed δ

namespace Field
variable {δ : Type u}

def source (f : Field δ) : Source := f.feed.source

def key (f : Field δ) : String := f.alias?.getD f.name

def isRequired (f : Field δ) : Bool := f.default?.isNone && !f.schema.isOptional

def pass (f : Field δ) : Pass := f.kind.pass

/-- Equality of fields; extractors are equal when their sources are, dependencies when `same` holds
of them. -/
def equal (same : δ → δ → Bool) (f g : Field δ) : Bool :=
  f.name == g.name && f.source == g.source && f.schema == g.schema && f.alias? == g.alias?
    && f.default? == g.default? && f.kind == g.kind
    && match f.feed.dependency?, g.feed.dependency? with
      | some d, some e => same d e
      | none, none => true
      | _, _ => false

end Field

end RequestBinding
