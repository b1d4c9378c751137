import SpatialFilter.Registry
import SpatialFilter.Sql.Template
import SpatialFilter.Wkt

/-! SQL conditions of predicates, with the tables and columns that they read. -/
namespace SpatialFilter

inductive ConditionError where
  | noProperty (operator : Operator)
  | geometryCount (operator : Operator) (count : Nat)
  | distanceRequired (operator : Operator)
  | distanceRefused (operator : Operator)
  | unsupported (kind : UnsupportedKind)
  | distanceNotFinite (operator : Operator) (distance : Number)
  | ordinateNotFinite (geometry : Geometry) (ordinate : Number)
  | notEnvelope (geometry : Geometry)
  | resolution (cause : ResolveError)
  | noPredicates
deriving DecidableEq

namespace ConditionError

def defect : ConditionError → String
  | noProperty o => o.name ++ " needs at least one property operand"
  | geometryCount o count =>
    o.name ++ " needs exactly one geometry operand, found " ++ toString count
  | distanceRequired o => o.name ++ " requires a distance"
  | distanceRefused o => o.name ++ " does not take a distance"
  | distanceNotFinite o d => o.name ++ " distance " ++ toString d ++ " is not a finite number"
  | ordinateNotFinite g n =>
    g.kindName ++ " geometry ordinate " ++ toString n ++ " is not a finite number"
  | notEnvelope g => "BBOX requires an envelope operand, got " ++ g.kindName
  | noPredicates => "no predicates to translate"
  | unsupported kind => kind.name
  | resolution cause => cause.message

def message : ConditionError → String
  | unsupported kind => "Unsupported geometry kind: " ++ kind.name
  | resolution cause => cause.message
  | error => "Malformed predicate: " ++ error.defect

end ConditionError

structure Condition where
  sql : String
  tables : NameSet
  columns : NameSet
deriving DecidableEq

namespace Sql

def srid : Nat := 4326

def boxOrdinates (ordinates : List Number) : String :=
  String.join (ordinates.map fun n => toString n ++ " ")

/-- The box literal. Each ordinate is followed by one blank; their order and number are kept. -/
def box (lower upper : Position) : String :=
  "SetSRID('BOX3D( " ++ boxOrdinates lower ++ "," ++ boxOrdinates upper ++ " )'::box3d, "
    ++ toString srid ++ ")"

def wktLiteral (wkt : String) : String := "GeomFromText('" ++ wkt ++ "')"

def literal : Geometry → Except ConditionError String
  | .envelope lower upper => .ok (box lower upper)
  | .point x y z => .ok (wktLiteral (Wkt.point x y z))
  | .lineString positions => .ok (wktLiteral (Wkt.lineString positions))
  | .unsupported kind => .error (.unsupported kind)

def checkDistance (p : Predicate) : Except ConditionError Unit :=
  match p.operator.takesDistance,p.distance with
  | true,none => .error (.distanceRequired p.operator)
  | false,some _ => .error (.distanceRefused p.operator)
  | _,_ => .ok ()

def checkSupported : Geometry → Except ConditionError Unit
  | .unsupported kind => .error (.unsupported kind)
  | _ => .ok ()

def checkFinite (p : Predicate) (g : Geometry) : Except ConditionError Unit :=
  match p.distance.filter (!·.isFinite),g.ordinates.find? (!·.isFinite) with
  | some distance,_ => .error (.distanceNotFinite p.operator distance)
  | none,some ordinate => .error (.ordinateNotFinite g ordinate)
  | none,none => .ok ()

/-- The geometry of a predicate that has a condition, properties and box comparison apart. -/
def checkedGeometry (p : Predicate) : Except ConditionError Geometry := do
  if p.properties.isEmpty then .error (.noProperty p.operator)
  match p.geometries with
  | [g] =>
    checkDistance p
    checkSupported g
    checkFinite p g
    return g
  | others => .error (.geometryCount p.operator others.length)

/-- Resolves all references; the first that fails is the error. -/
def resolveAll (resolver : Resolver) (references : List PropertyReference) :
    Except ConditionError (List Column) :=
  references.mapM fun reference => (resolver reference).mapError .resolution

def boxComparisons (columns : List Column) (literal : String) : String :=
  String.intercalate " AND "
    (columns.map fun c => c.expression ++ " " ++ Operator.boxComparison ++ " " ++ literal)

def propertyArguments (columns : List Column) : String :=
  String.intercalate "," (columns.map fun c => "GeomFromText(AsText(" ++ c.expression ++ "))")

/-- The call of an operator's function, after the comparison of the distance if there is one. -/
def call (template : Template) (distance : Option Number) (arguments : String) : String :=
  let call := template.function ++ "(" ++ arguments ++ ")"
  match template.closing.comparison distance with
  | some comparison => "DISTANCE(" ++ arguments ++ ") " ++ comparison ++ " AND " ++ call
  | none => call

def withSources (sql : String) (columns : List Column) : Condition :=
  ⟨sql,NameSet.ofNames (columns.map (·.table)),NameSet.ofNames (columns.map (·.column))⟩

def boxCondition (resolver : Resolver) (p : Predicate) : Geometry → Except ConditionError Condition
  | .envelope lower upper => do
    let columns ← resolveAll resolver p.properties
    return withSources (boxComparisons columns (box lower upper)) columns
  | other => .error (.notEnvelope other)

def callCondition (resolver : Resolver) (p : Predicate) (g : Geometry) :
    Except ConditionError Condition := do
  let columns ← resolveAll resolver p.properties
  let literal ← literal g
  let arguments := propertyArguments columns ++ "," ++ literal
  return withSources (call p.operator.template p.distance arguments) columns

def condition (resolver : Resolver) (p : Predicate) : Except ConditionError Condition := do
  let g ← checkedGeometry p
  match p.operator with
  | .bbox => boxCondition resolver p g
  | _ => callCondition resolver p g

end Sql

namespace Condition

/-- All conditions at once. A single one stands as it is; of several, each is put in parentheses. -/
def conjoin : List Condition → Condition
  | [t] => t
  | ts => ⟨String.intercalate " AND " (ts.map fun t => "(" ++ t.sql ++ ")"),
      ts.foldl (fun names t => names.union t.tables) NameMap.empty,
      ts.foldl (fun names t => names.union t.columns) NameMap.empty⟩

end Condition

def Sql.conditionOfAll (resolver : Resolver) : List Predicate → Except ConditionError Condition
  | [] => .error .noPredicates
  | ps => do return Condition.conjoin (← ps.mapM (condition resolver))

end SpatialFilter
