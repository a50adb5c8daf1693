import MacKinect.Gui.App

/-! `KinectFrameSource::start` of dal_plugin/KinectCameraDALPlugin.cpp. After its own stop(),
the plug-in's camera tries the Kinect v2 backend and then the Kinect v1 backend, and keeps the
first whose probe says available, that lists a device, opens it and starts it in colour. A
backend is what its calls answer. -/
namespace MacKinect.CameraDal

end MacKinect.CameraDal
