import PlatformOperator.Object

/-! The annotations, the label and the finalizer that the operator puts on objects. Releases recognise
    each other's objects by them, so their names never change. -/

namespace PlatformOperator.Marks

/-- The version of the release that produced the object. -/
def platformVersion : String := "platform.opendatahub.io/version"

/-- The platform that produced the object. -/
def platformType : String := "platform.opendatahub.io/type"

/-- The generation of the owning instance when the object was rendered. -/
def instanceGeneration : String := "platform.opendatahub.io/instance.generation"

def instanceName : String := "platform.opendatahub.io/instance.name"

def instanceUid : String := "platform.opendatahub.io/instance.uid"

/-- Where older releases wrote the generation. -/
def componentGeneration : String := "components.platform.opendatahub.io/component-generation"

/-- Set to `false`, it opts the object out of all management. -/
def managed : String := "opendatahub.io/managed"

/-- The kind of the instance the object is part of, in lower case. -/
def partOf : String := "platform.opendatahub.io/part-of"

/-- The finalizer of instances that need work before they disappear. -/
def finalizer : String := "platform.opendatahub.io/finalizer"

end PlatformOperator.Marks

namespace PlatformOperator

/-- Whether the object was opted out of management. -/
def ObjectMeta.isUnmanaged (m : ObjectMeta) : Bool := m.annotation? Marks.managed == some "false"

end PlatformOperator
