import Articulation.Data
import Articulation.Robot.Basic
/-!
Robots as plain data, for the formats that they are saved in.
-/
set_option autoImplicit false

namespace Articulation

def Vec3.data (v : Vec3 Float) : Data := .reals v.toList

namespace Drive

def data (d : Drive) : Data := .record [
  ("axis", .text d.axis.name),
  ("stiffness", .real driveStiffness),
  ("damping", .real driveDamping),
  ("force_limit", .real d.forceLimit),
  ("lower_limit", .optional (fun l => .real l.lower) d.limits),
  ("upper_limit", .optional (fun l => .real l.upper) d.limits)]

end Drive

def LinearLocks.data (l : LinearLocks) : Data :=
  .record (Axis.all.map fun axis => (axis.name, .text (l.along axis).name))

def Joint.data (j : Joint) : Data := .record [
  ("name", .text j.name),
  ("type", .text j.type.name),
  ("articulation", .text j.type.motion.name),
  ("drives", .list (j.drives.map Drive.data)),
  ("has_limits", .truth j.limits.isSome),
  ("lower_limit", .real j.lowerLimit),
  ("upper_limit", .real j.upperLimit),
  ("velocity_limit", .real j.velocityLimit),
  ("linear_locks", .optional LinearLocks.data j.linearLocks),
  ("axis_sign", .integer j.axisSign),
  ("anchor_position", j.anchor.data)]

def Visual.data (v : Visual) : Data := .record [
  ("asset", .text v.asset),
  ("position", v.pose.position.data),
  ("rotation", v.pose.rotation.data),
  ("material", .text v.materialName)]

def Collider.data (c : Collider) : Data := .record [
  ("asset", .text c.geometry.asset),
  ("source", .text c.geometry.source.name),
  ("position", c.pose.position.data),
  ("rotation", c.pose.rotation.data)]

def NodeEntry.data (n : NodeEntry) : Data := .record [
  ("name", .text n.name),
  ("link", .text n.link),
  ("parent", .optional .text n.parent),
  ("position", n.pose.position.data),
  ("rotation", n.pose.rotation.data),
  ("mass", .real n.mass),
  ("center_of_mass", n.centreOfMass.data),
  ("immovable", .truth n.isImmovable),
  ("is_sensor_only", .truth n.isSensorOnly),
  ("joint", .optional Joint.data n.joint),
  ("visual", .optional Visual.data n.visual),
  ("collision", .optional Collider.data n.collider)]

def Material.data (m : Material) : Data := .record [
  ("rgba", .reals m.colour.toList),
  ("metallic", .real m.metallic),
  ("glossiness", .real m.glossiness)]

def Robot.fields (r : Robot) : List (String × Data) := [
  ("robot_name", .text r.name),
  ("nodes", .list (r.nodes.map NodeEntry.data)),
  ("materials", .record (r.materials.map Material.data).entries)]

def Robot.data (r : Robot) : Data := .record r.fields

end Articulation
